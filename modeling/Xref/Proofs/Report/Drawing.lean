import Xref.Proofs.Except
import Xref.Proofs.Listing.Definition
import Xref.Proofs.Report.Growth
import Xref.Proofs.Report.Partition

/-!
# Reading a drawing back

A program that draws the graph reads each line as a statement about one or two strings. A string ends
at the next quote that has no backslash right before it, and a quote that has one stands for a quote;
so the texts that can be read are those in which every quote of a string was given a backslash, and in
which no string ends in a backslash. Names are written as they are and labels with such backslashes,
hence a drawing is read back unless a quote stands in a name, or a backslash at the end of a name or of
a label.
-/

namespace Xref.Report

/-! ## Strings -/

/-- The string whose opening quote stands right before the text, and what follows its closing quote. -/
def readString : Text → Option (Text × Text)
  | [] => none
  | '\\' :: '"' :: rest => (readString rest).map fun (string, after) => ('"' :: string, after)
  | c :: rest =>
    if c = '"' then some ([], rest)
    else (readString rest).map fun (string, after) => (c :: string, after)

def escapeQuotes (text : Text) : Text := text.flatMap fun c => if c = '"' then "\\\"" else [c]

/-- A quote that is put behind the text does not end a string. -/
def EndsInBackslash (text : Text) : Prop := text.getLast? = some '\\'

instance (text : Text) : Decidable (EndsInBackslash text) :=
  inferInstanceAs (Decidable (text.getLast? = some '\\'))

section
variable {c : Char} {text rest string after : Text}

theorem endsInBackslash_cons :
    EndsInBackslash (c :: text) ↔ EndsInBackslash text ∨ text = [] ∧ c = '\\' := by
  unfold EndsInBackslash
  cases text with
  | nil => simp
  | cons d text => simp [List.getLast?_cons_cons]

theorem escapeQuotes_quote (text : Text) :
    escapeQuotes ('"' :: text) = '\\' :: '"' :: escapeQuotes text := rfl

theorem escapeQuotes_cons (plain : c ≠ '"') (text : Text) :
    escapeQuotes (c :: text) = c :: escapeQuotes text := by
  simp [escapeQuotes, plain]

theorem escapeQuotes_of_not_mem (absent : '"' ∉ text) : escapeQuotes text = text := by
  induction text with
  | nil => rfl
  | cons c text ih =>
      rw [List.mem_cons, not_or] at absent
      rw [escapeQuotes_cons (Ne.symm absent.1), ih absent.2]

theorem head?_escapeQuotes (c : Char) (text rest : Text) :
    (escapeQuotes (c :: text) ++ rest).head? ≠ some '"' := by
  by_cases quote : c = '"'
  · subst quote
    rw [escapeQuotes_quote]
    simp
  · rw [escapeQuotes_cons quote]
    simpa using quote

theorem endsInBackslash_escapeQuotes : EndsInBackslash (escapeQuotes text) ↔ EndsInBackslash text := by
  rcases List.eq_nil_or_concat text with rfl | ⟨front, c, rfl⟩
  · rfl
  · simp only [EndsInBackslash, escapeQuotes, List.concat_eq_append, List.flatMap_append,
      List.flatMap_singleton, List.getLast?_append]
    by_cases quote : c = '"' <;> simp [quote]

theorem readString_cons (plain : c ≠ '"') (apart : c = '\\' → rest.head? ≠ some '"') :
    readString (c :: rest) =
      (readString rest).map fun (string, after) => (c :: string, after) := by
  rw [readString, if_neg plain]
  intro behind backslash begins
  exact apart backslash (by rw [begins, List.head?_cons])

theorem readString_escapeQuotes (closed : ¬ EndsInBackslash string) (after : Text) :
    readString (escapeQuotes string ++ '"' :: after) = some (string, after) := by
  induction string with
  | nil => simp [escapeQuotes, readString]
  | cons c string ih =>
      rw [endsInBackslash_cons, not_or] at closed
      by_cases quote : c = '"'
      · subst quote
        rw [escapeQuotes_quote, List.cons_append, List.cons_append, readString, ih closed.1]
        rfl
      · have apart : c = '\\' → (escapeQuotes string ++ '"' :: after).head? ≠ some '"' := by
          intro backslash
          cases string with
          | nil => exact absurd ⟨rfl, backslash⟩ closed.2
          | cons d string => exact head?_escapeQuotes d string _
        rw [escapeQuotes_cons quote, List.cons_append, readString_cons quote apart, ih closed.1]
        rfl

theorem eq_of_readString (read : readString text = some (string, after)) :
    text = escapeQuotes string ++ '"' :: after ∧ ¬ EndsInBackslash string := by
  induction text using readString.induct generalizing string with
  | case1 => simp [readString] at read
  | case2 rest ih =>
      rw [readString, Option.map_eq_some_iff] at read
      obtain ⟨⟨inner, behind⟩, read, same⟩ := read
      cases same
      obtain ⟨rfl, closed⟩ := ih read
      refine ⟨rfl, ?_⟩
      rw [endsInBackslash_cons]
      rintro (ends | ⟨-, quote⟩)
      · exact closed ends
      · exact absurd quote (by decide)
  | case3 rest _ =>
      simp only [readString, if_true, Option.some.injEq, Prod.mk.injEq] at read
      obtain ⟨rfl, rfl⟩ := read
      exact ⟨rfl, by decide⟩
  | case4 c rest apart plain ih =>
      rw [readString, if_neg plain, Option.map_eq_some_iff] at read
      · obtain ⟨⟨inner, behind⟩, read, same⟩ := read
        cases same
        obtain ⟨rfl, closed⟩ := ih read
        refine ⟨by rw [escapeQuotes_cons plain, List.cons_append], ?_⟩
        rw [endsInBackslash_cons]
        rintro (ends | ⟨rfl, backslash⟩)
        · exact closed ends
        · exact apart after backslash rfl
      · exact apart

theorem readString_eq_some : readString text = some (string, after) ↔
    text = escapeQuotes string ++ '"' :: after ∧ ¬ EndsInBackslash string := by
  refine ⟨eq_of_readString, ?_⟩
  rintro ⟨rfl, closed⟩
  exact readString_escapeQuotes closed after

def nextString (text : Text) : Option (Text × Text × Text) :=
  match text.dropWhile (· ≠ '"') with
  | [] => none
  | _ :: opened =>
    (readString opened).map fun (string, after) => (text.takeWhile (· ≠ '"'), string, after)

theorem nextString_eq_some {front : Text} : nextString text = some (front, string, after) ↔
    text = front ++ '"' :: (escapeQuotes string ++ '"' :: after) ∧
      '"' ∉ front ∧ ¬ EndsInBackslash string := by
  constructor
  · intro read
    unfold nextString at read
    split at read
    · cases read
    · rename_i quote opened dropped
      obtain ⟨⟨inner, behind⟩, read, same⟩ := Option.map_eq_some_iff.mp read
      cases same
      obtain ⟨rfl, closed⟩ := readString_eq_some.mp read
      obtain rfl : quote = '"' := by
        have stops := List.head?_dropWhile_not (· ≠ '"') text
        rw [dropped] at stops
        simpa using stops
      refine ⟨?_, ?_, closed⟩
      · rw [← dropped, List.takeWhile_append_dropWhile]
      · intro stands
        simpa using List.mem_takeWhile_imp stands
  · rintro ⟨rfl, absent, closed⟩
    have opens : ∀ c ∈ ('"' :: (escapeQuotes string ++ '"' :: after)).head?, c = '"' := by simp
    obtain ⟨taken, dropped⟩ := Listing.takeWhile_dropWhile_until absent opens
    simp only [nextString, taken, dropped, readString_escapeQuotes closed, Option.map_some]

end

/-! ## Statements -/

def twoStrings (between behind first second : Text) : Text :=
  '"' :: (first ++ '"' :: (between ++ '"' :: (second ++ '"' :: behind)))

inductive Statement where
  | node (name label : Text)
  | arrow (edge : Edge)
  deriving DecidableEq, Repr

namespace Statement

def name? : Statement → Option Symbol
  | .node name _ => some name
  | .arrow _ => none

def edge? : Statement → Option Edge
  | .node _ _ => none
  | .arrow edge => some edge

def ofMarks? (front between behind first second : Text) : Option Statement :=
  if front = [] ∧ between = " [label=" ∧ behind = "];" then some (.node first second)
  else if front = [] ∧ between = " -> " ∧ behind = ";" then some (.arrow ⟨first, second⟩)
  else none

def write : Statement → Text
  | .node name label => twoStrings " [label=" "];" (escapeQuotes name) (escapeQuotes label)
  | .arrow edge => twoStrings " -> " ";" (escapeQuotes edge.owner) (escapeQuotes edge.target)

def Closed : Statement → Prop
  | .node name label => ¬ EndsInBackslash name ∧ ¬ EndsInBackslash label
  | .arrow edge => ¬ EndsInBackslash edge.owner ∧ ¬ EndsInBackslash edge.target

end Statement

def readStatement (line : Text) : Option Statement := do
  let (front, first, rest) ← nextString line
  let (between, second, behind) ← nextString rest
  Statement.ofMarks? front between behind first second

theorem Statement.ofMarks?_eq_some {front between behind first second : Text} {statement : Statement}
    (made : ofMarks? front between behind first second = some statement) : front = [] ∧
      (between = " [label=".toList ∧ behind = "];".toList ∧ statement = .node first second ∨
        between = " -> ".toList ∧ behind = ";".toList ∧ statement = .arrow ⟨first, second⟩) := by
  unfold ofMarks? at made
  split_ifs at made with node arrow <;> cases made
  · exact ⟨node.1, .inl ⟨node.2.1, node.2.2, rfl⟩⟩
  · exact ⟨arrow.1, .inr ⟨arrow.2.1, arrow.2.2, rfl⟩⟩

theorem readStatement_twoStrings {between behind first second : Text} (absent : '"' ∉ between)
    (firstClosed : ¬ EndsInBackslash first) (secondClosed : ¬ EndsInBackslash second) :
    readStatement (twoStrings between behind (escapeQuotes first) (escapeQuotes second)) =
      Statement.ofMarks? [] between behind first second := by
  have ahead : nextString (twoStrings between behind (escapeQuotes first) (escapeQuotes second)) =
      some ([], first, between ++ '"' :: (escapeQuotes second ++ '"' :: behind)) :=
    nextString_eq_some.mpr ⟨rfl, List.not_mem_nil, firstClosed⟩
  have further : nextString (between ++ '"' :: (escapeQuotes second ++ '"' :: behind)) =
      some (between, second, behind) :=
    nextString_eq_some.mpr ⟨rfl, absent, secondClosed⟩
  simp only [readStatement, ahead, further, Option.bind_eq_bind, Option.bind_some]

theorem readStatement_eq_some {line : Text} {statement : Statement} :
    readStatement line = some statement ↔ line = statement.write ∧ statement.Closed := by
  constructor
  · intro read
    simp only [readStatement, Option.bind_eq_bind, Option.bind_eq_some_iff, Prod.exists] at read
    obtain ⟨front, first, rest, ahead, between, second, behind, further, made⟩ := read
    obtain ⟨rfl, -, firstClosed⟩ := nextString_eq_some.mp ahead
    obtain ⟨rfl, -, secondClosed⟩ := nextString_eq_some.mp further
    obtain ⟨rfl, ⟨rfl, rfl, rfl⟩ | ⟨rfl, rfl, rfl⟩⟩ := Statement.ofMarks?_eq_some made
    · exact ⟨rfl, firstClosed, secondClosed⟩
    · exact ⟨rfl, firstClosed, secondClosed⟩
  · rintro ⟨rfl, closed⟩
    cases statement with
    | node name label => exact readStatement_twoStrings (by decide) closed.1 closed.2
    | arrow edge => exact readStatement_twoStrings (by decide) closed.1 closed.2

/-! ## The lines of a drawing -/

def Quotable (name : Symbol) : Prop := '"' ∉ name ∧ ¬ EndsInBackslash name

instance (name : Symbol) : Decidable (Quotable name) :=
  inferInstanceAs (Decidable ('"' ∉ name ∧ ¬ EndsInBackslash name))

namespace Line

def node? : Line → Option Symbol
  | .node s => some s
  | _ => none

def arrow? : Line → Option Edge
  | .arrow s target => some ⟨s, target⟩
  | _ => none

def IsStatement (line : Line) : Prop := line.node?.isSome ∨ line.arrow?.isSome

/-- The whole line is read as a statement about the symbols that it was written for. -/
def ReadsBack (display : Symbol → Text) (line : Line) : Prop :=
  ∃ statement, readStatement (line.text display) = some statement ∧
    statement.name? = line.node? ∧ statement.edge? = line.arrow?

end Line

/-- A label as it is told to the program that draws: the line feeds are spelled out. -/
def spelledFeeds (label : Text) : Text := label.flatMap fun c => if c = '\n' then "\\n" else [c]

theorem escapeLabel_eq (label : Text) : escapeLabel label = escapeQuotes (spelledFeeds label) := by
  rw [escapeLabel, escapeQuotes, spelledFeeds, List.flatMap_assoc]
  apply List.flatMap_congr
  intro c _
  by_cases feed : c = '\n'
  · subst feed
    rfl
  · by_cases quote : c = '"' <;> simp [feed, quote]

theorem endsInBackslash_spelledFeeds {label : Text} :
    EndsInBackslash (spelledFeeds label) ↔ EndsInBackslash label := by
  rcases List.eq_nil_or_concat label with rfl | ⟨front, c, rfl⟩
  · rfl
  · simp only [EndsInBackslash, spelledFeeds, List.concat_eq_append, List.flatMap_append,
      List.flatMap_singleton, List.getLast?_append]
    by_cases feed : c = '\n' <;> simp [feed]

section
variable {display : Symbol → Text} {s target : Symbol} {statement : Statement}

theorem node_text : (Line.node s).text display =
    twoStrings " [label=" "];" s (escapeQuotes (spelledFeeds (display s))) := by
  have written : (Line.node s).text display =
      "\"".toList ++ s ++ "\" [label=\"".toList ++ escapeLabel (display s) ++ "\"];".toList := rfl
  rw [written, escapeLabel_eq]
  simp only [List.append_assoc]
  rfl

theorem arrow_text : (Line.arrow s target).text display = twoStrings " -> " ";" s target := by
  have written : (Line.arrow s target).text display =
      "\"".toList ++ s ++ "\" -> \"".toList ++ target ++ "\";".toList := rfl
  rw [written]
  simp only [List.append_assoc]
  rfl

/-- A name that is read back has no quote: there would be a backslash in its place. -/
theorem quote_not_mem_of_append_eq {name first second : Text}
    (same : name ++ first = escapeQuotes name ++ second) : '"' ∉ name := by
  induction name with
  | nil => exact List.not_mem_nil
  | cons c name ih =>
      by_cases quote : c = '"'
      · subst quote
        rw [escapeQuotes_quote] at same
        simp at same
      · rw [escapeQuotes_cons quote, List.cons_append, List.cons_append, List.cons.injEq] at same
        exact List.not_mem_cons_of_ne_of_not_mem (Ne.symm quote) (ih same.2)

theorem quotable_of_append_eq {name first second : Text}
    (same : name ++ '"' :: first = escapeQuotes name ++ '"' :: second)
    (closed : ¬ EndsInBackslash name) : Quotable name ∧ first = second := by
  have absent := quote_not_mem_of_append_eq same
  rw [escapeQuotes_of_not_mem absent, List.append_cancel_left_eq, List.cons.injEq] at same
  exact ⟨⟨absent, closed⟩, same.2⟩

theorem node_readsBack_iff : (Line.node s).ReadsBack display ↔
    Quotable s ∧ ¬ EndsInBackslash (display s) := by
  constructor
  · rintro ⟨⟨name, label⟩ | edge, read, named, -⟩
    · obtain rfl : name = s := Option.some.inj named
      obtain ⟨written, closed, labelClosed⟩ := readStatement_eq_some.mp read
      rw [node_text, Statement.write, twoStrings, twoStrings, List.cons.injEq] at written
      obtain ⟨quotable, labels⟩ := quotable_of_append_eq written.2 closed
      rw [List.append_cancel_left_eq, List.cons.injEq, List.append_cancel_right_eq] at labels
      refine ⟨quotable, ?_⟩
      rwa [← endsInBackslash_spelledFeeds, ← endsInBackslash_escapeQuotes, labels.2,
        endsInBackslash_escapeQuotes]
    · cases named
  · rintro ⟨⟨absent, closed⟩, labelClosed⟩
    refine ⟨.node s (spelledFeeds (display s)), readStatement_eq_some.mpr ⟨?_, closed, ?_⟩, rfl, rfl⟩
    · rw [node_text, Statement.write, escapeQuotes_of_not_mem absent]
    · rwa [endsInBackslash_spelledFeeds]

theorem arrow_readsBack_iff : (Line.arrow s target).ReadsBack display ↔
    Quotable s ∧ Quotable target := by
  constructor
  · rintro ⟨⟨name, label⟩ | edge, read, -, drawn⟩
    · cases drawn
    · obtain rfl : edge = ⟨s, target⟩ := Option.some.inj drawn
      obtain ⟨written, closed, targetClosed⟩ := readStatement_eq_some.mp read
      rw [arrow_text, Statement.write, twoStrings, twoStrings, List.cons.injEq] at written
      obtain ⟨quotable, targets⟩ := quotable_of_append_eq written.2 closed
      rw [List.append_cancel_left_eq, List.cons.injEq] at targets
      exact ⟨quotable, (quotable_of_append_eq targets.2 targetClosed).1⟩
  · rintro ⟨⟨absent, closed⟩, targetAbsent, targetClosed⟩
    refine ⟨.arrow ⟨s, target⟩, readStatement_eq_some.mpr ⟨?_, closed, targetClosed⟩, rfl, rfl⟩
    rw [arrow_text, Statement.write, escapeQuotes_of_not_mem absent, escapeQuotes_of_not_mem targetAbsent]

theorem suffix_twoStrings (between behind first second : Text) :
    '"' :: behind <:+ twoStrings between behind first second :=
  ⟨'"' :: (first ++ '"' :: (between ++ '"' :: second)), by simp [twoStrings]⟩

theorem node_ne_arrow (name label first second : Text) :
    twoStrings " [label=" "];" name label ≠ twoStrings " -> " ";" first second := by
  intro same
  have arrow := suffix_twoStrings " -> " ";" first second
  rw [← same] at arrow
  have short := List.suffix_of_suffix_length_le arrow (suffix_twoStrings _ "];" name label) (by decide)
  exact absurd short (by decide)

theorem name?_of_node_text (read : readStatement ((Line.node s).text display) = some statement) :
    ∃ name label, statement = .node name label := by
  cases statement with
  | node name label => exact ⟨name, label, rfl⟩
  | arrow edge =>
      obtain ⟨written, -⟩ := readStatement_eq_some.mp read
      rw [node_text] at written
      exact absurd written (node_ne_arrow _ _ _ _)

theorem edge?_of_arrow_text
    (read : readStatement ((Line.arrow s target).text display) = some statement) :
    ∃ edge, statement = .arrow edge := by
  cases statement with
  | node name label =>
      obtain ⟨written, -⟩ := readStatement_eq_some.mp read
      rw [arrow_text] at written
      exact absurd written.symm (node_ne_arrow _ _ _ _)
  | arrow edge => exact ⟨edge, rfl⟩

end

theorem read_iff_forall_readsBack (display : Symbol → Text) {body : List Line}
    (stated : ∀ line ∈ body, line.IsStatement) :
    (∃ statements : List Statement,
        (body.map (Line.text display)).map readStatement = statements.map some ∧
        statements.filterMap Statement.name? = body.filterMap Line.node? ∧
        statements.filterMap Statement.edge? = body.filterMap Line.arrow?) ↔
      ∀ line ∈ body, line.ReadsBack display := by
  induction body with
  | nil =>
      refine ⟨fun _ => by simp, fun _ => ⟨[], rfl, rfl, rfl⟩⟩
  | cons line body ih =>
      obtain ⟨isStatement, stated⟩ := List.forall_mem_cons.mp stated
      rw [List.forall_mem_cons, ← ih stated]
      constructor
      · rintro ⟨_ | ⟨statement, statements⟩, read, names, edges⟩
        · cases read
        · obtain ⟨read, others⟩ := List.cons.inj read
          cases line with
          | node s =>
              obtain ⟨name, label, rfl⟩ := name?_of_node_text read
              obtain ⟨rfl, further⟩ := List.cons.inj names
              exact ⟨⟨_, read, rfl, rfl⟩, statements, others, further, edges⟩
          | arrow s target =>
              obtain ⟨edge, rfl⟩ := edge?_of_arrow_text read
              obtain ⟨rfl, further⟩ := List.cons.inj edges
              exact ⟨⟨_, read, rfl, rfl⟩, statements, others, names, further⟩
          | _ => simp [Line.IsStatement, Line.node?, Line.arrow?] at isStatement
      · rintro ⟨⟨statement, read, name, edge⟩, statements, others, names, edges⟩
        refine ⟨statement :: statements, ?_, ?_, ?_⟩
        · rw [List.map_cons, List.map_cons, read, others, List.map_cons]
        · rw [List.filterMap_cons, List.filterMap_cons, name, names]
        · rw [List.filterMap_cons, List.filterMap_cons, edge, edges]

/-! ## Whole drawings -/

section
variable (g : Graph)

theorem block_dot (s : Symbol) :
    block g .dot s = .node s :: (g.dependenciesOf s).map (Line.arrow s) :=
  List.append_nil _

theorem filterMap_node?_blocks (symbols : List Symbol) :
    (symbols.flatMap (block g .dot)).filterMap Line.node? = symbols := by
  have alone (s : Symbol) : (block g .dot s).filterMap Line.node? = [s] := by
    have arrows : ((g.dependenciesOf s).map (Line.arrow s)).filterMap Line.node? = [] := by
      rw [List.filterMap_map, List.filterMap_eq_nil_iff]
      exact fun _ _ => rfl
    rw [block_dot, List.filterMap_cons, arrows]
    rfl
  simp only [List.filterMap_flatMap, alone, List.flatMap_singleton']

theorem filterMap_arrow?_blocks (symbols : List Symbol) :
    (symbols.flatMap (block g .dot)).filterMap Line.arrow? =
      symbols.flatMap fun s => (g.dependenciesOf s).map (Edge.mk s) := by
  have row (s : Symbol) :
      (block g .dot s).filterMap Line.arrow? = (g.dependenciesOf s).map (Edge.mk s) := by
    rw [block_dot, List.filterMap_cons_none rfl, List.filterMap_map]
    exact congrFun List.filterMap_eq_map _
  simp only [List.filterMap_flatMap, row]

theorem isStatement_of_mem_blocks (symbols : List Symbol) :
    ∀ line ∈ symbols.flatMap (block g .dot), line.IsStatement := by
  intro line listed
  obtain ⟨s, -, listed⟩ := List.mem_flatMap.mp listed
  rw [block_dot, List.mem_cons, List.mem_map] at listed
  rcases listed with rfl | ⟨target, -, rfl⟩
  · exact .inl rfl
  · exact .inr rfl

theorem readsBack_blocks_iff {display : Symbol → Text} {symbols : List Symbol} :
    (∀ line ∈ symbols.flatMap (block g .dot), line.ReadsBack display) ↔
      ∀ s ∈ symbols, Quotable s ∧ ¬ EndsInBackslash (display s) ∧
        ∀ target ∈ g.dependenciesOf s, Quotable target := by
  rw [List.forall_mem_flatMap]
  refine forall₂_congr fun s _ => ?_
  simp only [block_dot, List.forall_mem_cons, List.forall_mem_map, node_readsBack_iff,
    arrow_readsBack_iff]
  constructor
  · rintro ⟨⟨quotable, labelled⟩, arrows⟩
    exact ⟨quotable, labelled, fun target listed => (arrows target listed).2⟩
  · rintro ⟨quotable, labelled, targets⟩
    exact ⟨⟨quotable, labelled⟩, fun target listed => ⟨quotable, targets target listed⟩⟩

end

/-- The drawing of a listing is read back, line by line, as the nodes that it shows and the arrows from
them, exactly when no quote stands in a name that it writes, and no backslash at the end of such a name
or of a label. -/
theorem drawing_read_back_iff (lines : List Text) {filter : Filter} {start : Option Symbol}
    (valid : Options.mismatch? ⟨.dot, filter, start⟩ = none) (display : Symbol → Text) :
    let g := Graph.ofListing lines
    ∃ selected statementLines, select g ⟨.dot, filter, start⟩ = .ok selected ∧
      (render g ⟨.dot, filter, start⟩).map (List.map (Line.text display)) =
        .ok ("digraph G \x7b".toList :: statementLines ++ ["\x7d".toList]) ∧
      ((∃ statements : List Statement, statementLines.map readStatement = statements.map some ∧
          statements.filterMap Statement.name? = selected ∧
          statements.filterMap Statement.edge? =
            selected.flatMap fun s => (g.dependenciesOf s).map (Edge.mk s)) ↔
        ∀ s ∈ selected, Quotable s ∧ ¬ EndsInBackslash (display s) ∧
          ∀ target ∈ g.dependenciesOf s, Quotable target) := by
  intro g
  obtain ⟨selected, chosen⟩ := select_of_valid g valid
  let body := selected.flatMap (block g .dot)
  refine ⟨selected, body.map (Line.text display), chosen, ?_, ?_⟩
  · have rendered : render g ⟨.dot, filter, start⟩ = .ok (.opening :: body ++ [.closing]) :=
      render_of_select Format.noConfusion chosen
    rw [rendered]
    simp only [Except.map, List.map_append, List.map_cons]
    rfl
  · have read := read_iff_forall_readsBack display (isStatement_of_mem_blocks g selected)
    rw [filterMap_node?_blocks, filterMap_arrow?_blocks, readsBack_blocks_iff] at read
    exact read

/-- Backslashes inside the names, and quotes, line feeds and backslashes inside the labels, do no harm. -/
theorem drawing_read_back_backslashes :
    let lines : List Text := ["0 <a\\b>:", "call <\\c d>", "4 <e>:", "call <a\\b>"]
    let display : Symbol → Text := fun s => s ++ "\\\"\n\""
    Options.mismatch? ⟨.dot, .reachable, some "a\\b"⟩ = none ∧
      ∃ statementLines,
        (render (.ofListing lines) (.reachableFrom "a\\b" .dot)).map (List.map (Line.text display)) =
          .ok ("digraph G \x7b".toList :: statementLines ++ ["\x7d".toList]) ∧
        ∃ statements : List Statement, statementLines.map readStatement = statements.map some ∧
          statements.filterMap Statement.name? = ["a\\b".toList] ∧
          statements.filterMap Statement.edge? = [⟨"a\\b", "\\c d"⟩] := by
  intro lines display
  have valid : Options.mismatch? ⟨.dot, .reachable, some "a\\b"⟩ = none := rfl
  have known : select (.ofListing lines) ⟨.dot, .reachable, some "a\\b"⟩ = .ok ["a\\b".toList] :=
    eq_ok_of_toOption (by decide +kernel)
  obtain ⟨selected, statementLines, chosen, rendered, read⟩ :=
    drawing_read_back_iff lines valid display
  obtain rfl := Except.ok.inj (known.symm.trans chosen)
  obtain ⟨statements, each, names, edges⟩ := read.mpr (by decide)
  exact ⟨valid, statementLines, rendered, statements, each, names, edges.trans (by decide)⟩

/-- The quote in the name of `a"b` ends the string that the name should be. -/
theorem quote_in_name_not_read_back :
    let g := Graph.ofListing ["0 <a\"b>:", "call <c>"]
    ∃ selected statementLines, select g ⟨.dot, .all, none⟩ = .ok selected ∧
      (render g ⟨.dot, .all, none⟩).map (List.map (Line.text id)) =
        .ok ("digraph G \x7b".toList :: statementLines ++ ["\x7d".toList]) ∧
      ¬ ∃ statements : List Statement, statementLines.map readStatement = statements.map some ∧
          statements.filterMap Statement.name? = selected ∧
          statements.filterMap Statement.edge? =
            selected.flatMap fun s => (g.dependenciesOf s).map (Edge.mk s) := by
  intro g
  refine ⟨["a\"b"], ["\"a\"b\" [label=\"a\\\"b\"];", "\"a\"b\" -> \"c\";"],
    eq_ok_of_toOption (by decide +kernel), eq_ok_of_toOption (by decide +kernel), ?_⟩
  rintro ⟨statements, read, -⟩
  have unread : none ∈ List.map readStatement
      ["\"a\"b\" [label=\"a\\\"b\"];", "\"a\"b\" -> \"c\";"] := by decide
  rw [read] at unread
  simp at unread

end Xref.Report
