import Switchboard.Proofs.Line.Typing
/-!
# The grammar of lines

A line is a row of tokens with blanks between them, before the first and after the last. A token is
a row of pieces, each a plain character or a span, and only the last token of a line can end in a
span that is never closed. Such a reading of a line is a `Layout`. Every line has one
(`exists_layout`), and whatever the layout, the line is cut into the texts of its tokens; where no
span is left open, what comes after a gap is cut on its own (`tokenLists_row`).
-/
namespace Switchboard.Line

/-! ## Layouts -/

/-- A token as it is typed: pieces, and perhaps a span after them that is never closed. -/
structure Token where
  /-- The pieces. -/
  atoms : List Atom
  /-- The quote and the run of the span that is never closed. -/
  unclosed : Option (Char × List Char) := none

namespace Token

/-- The characters that are typed. -/
def typed (token : Token) : List Char :=
  token.atoms.flatMap Atom.typed ++ match token.unclosed with
    | none => []
    | some (quote, run) => quote :: run

/-- The characters that are meant. -/
def meant (token : Token) : List Char :=
  token.atoms.flatMap Atom.meant ++ match token.unclosed with
    | none => []
    | some (_, run) => run

/-- A token is not without pieces, each piece is a plain character or goes on to its second quote,
and the span that is never closed has no second quote. -/
structure Formed (token : Token) : Prop where
  /-- There is a piece or a span that is never closed. -/
  filled : token.unclosed = none → token.atoms ≠ []
  /-- The pieces are closed. -/
  closed : ∀ atom ∈ token.atoms, atom.Closed
  /-- The span that is never closed begins with a quote and has no second one. -/
  unclosed : ∀ span ∈ token.unclosed, isQuote span.1 = true ∧ span.1 ∉ span.2

/-- The conditions on a token, one after the other. -/
theorem formed_iff {token : Token} : token.Formed ↔ (token.unclosed = none → token.atoms ≠ []) ∧
    (∀ atom ∈ token.atoms, atom.Closed) ∧
      ∀ span ∈ token.unclosed, isQuote span.1 = true ∧ span.1 ∉ span.2 :=
  ⟨fun formed => ⟨formed.filled, formed.closed, formed.unclosed⟩,
    fun ⟨filled, closed, unclosed⟩ => ⟨filled, closed, unclosed⟩⟩

instance : (atom : Atom) → Decidable atom.Closed
  | .plain _ => inferInstanceAs (Decidable (_ ∧ _))
  | .span _ _ => inferInstanceAs (Decidable (_ ∧ _))

instance (token : Token) : Decidable token.Formed := decidable_of_iff' _ formed_iff

end Token

/-- Characters that are all blanks. -/
def AllBlank (characters : List Char) : Prop :=
  ∀ character ∈ characters, Text.isBlank character = true

instance (characters : List Char) : Decidable (AllBlank characters) :=
  List.decidableBAll _ characters

/-- Tokens, each with the blanks after it, as they are typed. -/
def typedRow (row : List (Token × List Char)) : List Char :=
  row.flatMap fun entry => entry.1.typed ++ entry.2

/-- The texts that tokens mean. -/
def meantRow (row : List (Token × List Char)) : List (List Char) :=
  row.map fun entry => entry.1.meant

/-- After each token but the last there is a blank, and it is not left open. A last token that is
left open runs to the end of the line. -/
def FormedRow : List (Token × List Char) → Prop
  | [] => True
  | [(token, blanks)] =>
    token.Formed ∧ AllBlank blanks ∧ (token.unclosed ≠ none → blanks = [])
  | (token, blanks) :: next :: rest =>
    token.Formed ∧ AllBlank blanks ∧ token.unclosed = none ∧ blanks ≠ [] ∧
      FormedRow (next :: rest)

instance decidableFormedRow : (row : List (Token × List Char)) → Decidable (FormedRow row)
  | [] => isTrue trivial
  | [_] => inferInstanceAs (Decidable (_ ∧ _ ∧ _))
  | _ :: next :: rest =>
    have := decidableFormedRow (next :: rest)
    inferInstanceAs (Decidable (_ ∧ _ ∧ _ ∧ _ ∧ _))

/-- A reading of a line as tokens with blanks around them. -/
structure Layout where
  /-- The blanks before the first token. -/
  lead : List Char
  /-- The tokens, each with the blanks after it. -/
  row : List (Token × List Char)

namespace Layout

/-- The characters that are laid out. -/
def typed (layout : Layout) : List Char := layout.lead ++ typedRow layout.row

/-- The line that is laid out. -/
def line (layout : Layout) : String := String.ofList layout.typed

/-- The texts of the tokens. -/
def texts (layout : Layout) : List String := (meantRow layout.row).map String.ofList

/-- A layout keeps to the grammar. -/
structure Formed (layout : Layout) : Prop where
  /-- Before the first token there are blanks only. -/
  lead : AllBlank layout.lead
  /-- The tokens are formed, with blanks between them. -/
  row : FormedRow layout.row

/-- No token is left open. -/
def Closed (layout : Layout) : Prop := ∀ entry ∈ layout.row, entry.1.unclosed = none

instance (layout : Layout) : Decidable layout.Closed :=
  inferInstanceAs (Decidable (∀ entry ∈ layout.row, _))

end Layout

/-- A line ends outside a span: it has a layout in which no token is left open. -/
def EndsOutside (line : String) : Prop :=
  ∃ layout : Layout, layout.Formed ∧ layout.Closed ∧ layout.line = line

/-! ## Every line has a layout -/

namespace Layout

/-- Put a piece before a layout. It joins the first token if no blanks stand before that, and else
it is a token of its own. -/
def join (atom : Atom) : Layout → Layout
  | ⟨[], (token, blanks) :: rest⟩ =>
    ⟨[], ({ token with atoms := atom :: token.atoms }, blanks) :: rest⟩
  | ⟨lead, row⟩ => ⟨[], (⟨[atom], none⟩, lead) :: row⟩

/-- The piece is typed before the rest. -/
theorem typed_join (atom : Atom) (layout : Layout) :
    (layout.join atom).typed = atom.typed ++ layout.typed := by
  unfold join
  split
  · simp [typed, typedRow, Token.typed]
  · simp [typed, typedRow, Token.typed]

/-- A closed piece is a token. -/
theorem formed_single {atom : Atom} (closed : atom.Closed) : (⟨[atom], none⟩ : Token).Formed where
  filled _ := List.cons_ne_nil _ _
  closed := List.forall_mem_singleton.mpr closed
  unclosed _ never := by cases never

/-- A closed piece joins a token. -/
theorem formed_cons {atom : Atom} (closed : atom.Closed) {token : Token} (formed : token.Formed) :
    ({ token with atoms := atom :: token.atoms } : Token).Formed where
  filled _ := List.cons_ne_nil _ _
  closed := List.forall_mem_cons.mpr ⟨closed, formed.closed⟩
  unclosed := formed.unclosed

/-- A span that is never closed is a token. -/
theorem formed_unclosed {quote : Char} {run : List Char} (quotes : isQuote quote = true)
    (free : quote ∉ run) : (⟨[], some (quote, run)⟩ : Token).Formed where
  filled never := by cases never
  closed := List.forall_mem_nil _
  unclosed _ same := by
    cases same
    exact ⟨quotes, free⟩

/-- A layout with a closed piece before it keeps to the grammar. -/
theorem Formed.join {atom : Atom} (closed : atom.Closed) {layout : Layout}
    (formed : layout.Formed) : (layout.join atom).Formed := by
  obtain ⟨lead, row⟩ := layout
  obtain ⟨blank, row_formed⟩ := formed
  refine ⟨?_, ?_⟩
  · unfold Layout.join
    split <;> exact List.forall_mem_nil _
  · cases row with
    | nil =>
      have alone : FormedRow [(⟨[atom], none⟩, lead)] :=
        ⟨formed_single closed, blank, fun never => absurd rfl never⟩
      cases lead <;> exact alone
    | cons entry rest =>
      obtain ⟨token, blanks⟩ := entry
      cases lead with
      | nil =>
        -- The first token keeps its end, so what stands after it still may.
        change FormedRow ((_, blanks) :: rest)
        cases rest with
        | nil =>
          obtain ⟨token_formed, after⟩ := row_formed
          exact ⟨formed_cons closed token_formed, after⟩
        | cons next rest =>
          obtain ⟨token_formed, after⟩ := row_formed
          exact ⟨formed_cons closed token_formed, after⟩
      | cons character lead =>
        exact ⟨formed_single closed, blank, rfl, List.cons_ne_nil _ _, row_formed⟩

end Layout

/-- Every line has a layout. -/
theorem exists_layout (characters : List Char) :
    ∃ layout : Layout, layout.Formed ∧ layout.typed = characters := by
  match characters with
  | [] => exact ⟨⟨[], []⟩, ⟨List.forall_mem_nil _, trivial⟩, rfl⟩
  | character :: rest =>
    by_cases quotes : isQuote character = true
    · by_cases again : character ∈ rest
      · obtain ⟨run, after, parts, free⟩ := List.eq_append_cons_of_mem again
        have shorter : after.length < rest.length := by
          rw [parts, List.length_append, List.length_cons]
          omega
        have closed : (Atom.span character run).Closed := ⟨quotes, free⟩
        obtain ⟨layout, formed, typed⟩ := exists_layout after
        refine ⟨layout.join (.span character run), formed.join closed, ?_⟩
        rw [Layout.typed_join, typed, parts]
        simp [Atom.typed, spanOf]
      · refine ⟨⟨[], [(⟨[], some (character, rest)⟩, [])]⟩, ⟨List.forall_mem_nil _, ?_⟩, ?_⟩
        · exact ⟨Layout.formed_unclosed quotes again, List.forall_mem_nil _, fun _ => rfl⟩
        · simp [Layout.typed, typedRow, Token.typed]
    · obtain ⟨layout, formed, typed⟩ := exists_layout rest
      by_cases blank : Text.isBlank character = true
      · refine ⟨⟨character :: layout.lead, layout.row⟩, ⟨?_, formed.row⟩, ?_⟩
        · exact List.forall_mem_cons.mpr ⟨blank, formed.lead⟩
        · rw [← typed]
          rfl
      · have closed : (Atom.plain character).Closed :=
          ⟨eq_false_of_ne_true quotes, eq_false_of_ne_true blank⟩
        refine ⟨layout.join (.plain character), formed.join closed, ?_⟩
        rw [Layout.typed_join, typed]
        rfl
termination_by characters.length

/-! ## What the scan makes of a layout -/

/-- A span that is never closed runs to the end. -/
theorem scan_inSpan_unclosed {quote : Char} {run : List Char} (free : quote ∉ run) :
    scan (.inSpan quote) run = (run, []) := by
  induction run with
  | nil => rfl
  | cons character run ih =>
    rw [List.mem_cons, not_or] at free
    rw [scan, if_neg (Ne.symm free.1), ih free.2]

/-- Between tokens, a token begins; if it is left open, nothing comes after it. -/
theorem scan_between_token {token : Token} (formed : token.Formed) {rest : List Char}
    (ends : token.unclosed ≠ none → rest = []) : scan .between (token.typed ++ rest) =
      ([], (token.meant ++ (scan .inToken rest).1) :: (scan .inToken rest).2) := by
  obtain ⟨atoms, unclosed⟩ := token
  have spells : atoms ≠ [] → Spells (String.ofList (atoms.flatMap Atom.meant))
      (atoms.flatMap Atom.typed) :=
    fun filled => ⟨atoms, filled, formed.closed, String.toList_ofList.symm, rfl⟩
  cases unclosed with
  | none =>
    have scanned := scan_between_spells (spells (formed.filled rfl)) rest
    rw [String.toList_ofList] at scanned
    simpa [Token.typed, Token.meant] using scanned
  | some span =>
    obtain ⟨quote, run⟩ := span
    obtain ⟨quotes, free⟩ := formed.unclosed (quote, run) rfl
    have nothing : rest = [] := ends (Option.some_ne_none _)
    have opened : scan .inToken (quote :: run) = (run, []) := by
      rw [scan, if_pos quotes, scan_inSpan_unclosed free]
    rw [nothing, List.append_nil]
    change scan .between (atoms.flatMap Atom.typed ++ quote :: run) =
      ([], [atoms.flatMap Atom.meant ++ run ++ []])
    rw [List.append_nil]
    cases atoms with
    | nil =>
      rw [List.flatMap_nil, List.nil_append, scan, if_pos quotes, scan_inSpan_unclosed free]
      rfl
    | cons atom atoms =>
      have scanned := scan_between_spells (spells (List.cons_ne_nil _ _)) (quote :: run)
      rw [String.toList_ofList, opened] at scanned
      exact scanned

/-- Characters before which a token ends: there are none, or they begin with a gap. -/
def Breaks (characters : List Char) : Prop :=
  characters = [] ∨ ∃ (gap : Gap) (rest : List Char), characters = gap.blanks ++ rest

/-- Blanks before characters that break still break. -/
theorem Breaks.after_blanks {blanks tail : List Char} (blank : AllBlank blanks)
    (breaks : blanks = [] → Breaks tail) : Breaks (blanks ++ tail) := by
  by_cases bare : blanks = []
  · rw [bare]
    exact breaks bare
  · exact .inr ⟨⟨blanks, bare, blank⟩, tail, rfl⟩

/-- A token ends before characters that break. -/
theorem scan_inToken_breaks {characters : List Char} (breaks : Breaks characters) :
    scan .inToken characters = ([], tokenLists characters) := by
  rcases breaks with rfl | ⟨gap, rest, rfl⟩
  · rfl
  · rw [scan_inToken_gap, tokenLists, tokenLists, scan_between_blanks gap.blank]

/-- A token and the blanks after it are cut into the text of the token, and what comes after them,
which is nothing if the token is left open, is cut on its own. -/
theorem tokenLists_token {token : Token} (formed : token.Formed) {blanks tail : List Char}
    (blank : AllBlank blanks) (breaks : blanks = [] → Breaks tail)
    (ends : token.unclosed ≠ none → blanks ++ tail = []) :
    tokenLists (token.typed ++ blanks ++ tail) = token.meant :: tokenLists tail := by
  have after := scan_inToken_breaks (Breaks.after_blanks blank breaks)
  have gone : tokenLists (blanks ++ tail) = tokenLists tail := by
    rw [tokenLists, tokenLists, scan_between_blanks blank]
  rw [List.append_assoc, tokenLists, scan_between_token formed ends, after, gone, List.append_nil]

/-- A formed row is cut into the texts of its tokens, and what comes after it, which is nothing if a
token is left open, is cut on its own. -/
theorem tokenLists_row {row : List (Token × List Char)} (formed : FormedRow row)
    {tail : List Char} (breaks : Breaks tail)
    (ends : (∃ entry ∈ row, entry.1.unclosed ≠ none) → tail = []) :
    tokenLists (typedRow row ++ tail) = meantRow row ++ tokenLists tail := by
  fun_induction FormedRow row with
  | case1 => rfl
  | case2 token blanks =>
    obtain ⟨token_formed, blank, last⟩ := formed
    have nothing : token.unclosed ≠ none → blanks ++ tail = [] := by
      intro unclosed
      rw [last unclosed, ends ⟨_, List.mem_singleton_self _, unclosed⟩]
      rfl
    have cut := tokenLists_token token_formed blank (fun _ => breaks) nothing
    simpa [typedRow, meantRow] using cut
  | case3 token blanks next rest ih =>
    obtain ⟨token_formed, blank, closed, apart, later⟩ := formed
    have open_ends : (∃ entry ∈ next :: rest, entry.1.unclosed ≠ none) → tail = [] := by
      rintro ⟨entry, member, unclosed⟩
      exact ends ⟨entry, List.mem_cons_of_mem _ member, unclosed⟩
    have nothing : token.unclosed ≠ none →
        blanks ++ (typedRow (next :: rest) ++ tail) = [] := fun unclosed => absurd closed unclosed
    have cut := tokenLists_token token_formed blank (fun bare => absurd bare apart) nothing
    rw [ih later open_ends] at cut
    simpa [typedRow, meantRow] using cut

/-- A layout is cut into the texts of its tokens, and what comes after it is cut on its own. -/
theorem tokenLists_layout {layout : Layout} (formed : layout.Formed) {tail : List Char}
    (breaks : Breaks tail) (ends : ¬ layout.Closed → tail = []) :
    tokenLists (layout.typed ++ tail) = meantRow layout.row ++ tokenLists tail := by
  have row := tokenLists_row formed.row breaks fun ⟨entry, member, unclosed⟩ =>
    ends fun closed => unclosed (closed entry member)
  rw [Layout.typed, List.append_assoc, tokenLists, scan_between_blanks formed.lead, ← tokenLists,
    row]

/-- The tokens of a line with a layout are the texts of the layout. -/
theorem tokens_layout {layout : Layout} (formed : layout.Formed) :
    tokens layout.line = layout.texts := by
  have cut := tokenLists_layout formed (.inl rfl) fun _ => rfl
  rw [List.append_nil] at cut
  rw [tokens, Layout.line, String.toList_ofList, cut, Layout.texts]
  change (meantRow layout.row ++ []).map String.ofList = _
  rw [List.append_nil]

/-- A line has no token exactly when it is blank. -/
theorem tokens_eq_nil_iff (line : String) : tokens line = [] ↔ AllBlank line.toList := by
  constructor
  · intro none
    obtain ⟨layout, formed, typed⟩ := exists_layout line.toList
    have same : layout.line = line := by rw [Layout.line, typed, String.ofList_toList]
    rw [← same, tokens_layout formed, Layout.texts, meantRow, List.map_map,
      List.map_eq_nil_iff] at none
    rw [← typed, Layout.typed, none]
    simpa [typedRow] using formed.lead
  · intro blank
    have formed : (⟨line.toList, []⟩ : Layout).Formed := ⟨blank, trivial⟩
    have same : (⟨line.toList, []⟩ : Layout).line = line := by
      simp [Layout.line, Layout.typed, typedRow]
    rw [← same, tokens_layout formed]
    rfl

/-- The tokens on either side of a gap are those of the two sides, if no span is open at the gap. -/
theorem tokens_gap {first gap : String} (outside : EndsOutside first) (some : gap ≠ "")
    (blank : AllBlank gap.toList) (second : String) :
    tokens (first ++ gap ++ second) = tokens first ++ tokens second := by
  obtain ⟨layout, formed, closed, rfl⟩ := outside
  have filled : gap.toList ≠ [] := fun bare => some (String.toList_eq_nil_iff.mp bare)
  have breaks : Breaks (gap.toList ++ second.toList) :=
    .after_blanks blank fun bare => absurd bare filled
  have cut := tokenLists_layout formed breaks fun unclosed => absurd closed unclosed
  have gone : tokenLists (gap.toList ++ second.toList) = tokenLists second.toList := by
    rw [tokenLists, scan_between_blanks blank, ← tokenLists]
  rw [tokens_layout formed, tokens, String.toList_append, String.toList_append, Layout.line,
    String.toList_ofList, List.append_assoc, cut, gone, List.map_append]
  rfl

/-- The grammar of lines: every line has a layout, that is, blanks and tokens in turn, each token
made of plain characters and spans, of which only the very last may be left open; whatever its
layout, a line is cut into the texts of its tokens; it has no token exactly when it is blank; and
where no span is open, a gap cuts a line into two lines. -/
theorem tokens_grammar :
    (∀ line : String, ∃ layout : Layout, layout.Formed ∧ layout.line = line) ∧
      (∀ layout : Layout, layout.Formed → tokens layout.line = layout.texts) ∧
      (∀ line : String, tokens line = [] ↔ AllBlank line.toList) ∧
      ∀ first gap second : String, EndsOutside first → gap ≠ "" → AllBlank gap.toList →
        tokens (first ++ gap ++ second) = tokens first ++ tokens second := by
  refine ⟨fun line => ?_, fun _ formed => tokens_layout formed, tokens_eq_nil_iff, ?_⟩
  · obtain ⟨layout, formed, typed⟩ := exists_layout line.toList
    exact ⟨layout, formed, by rw [Layout.line, typed, String.ofList_toList]⟩
  · exact fun first gap second outside some blank => tokens_gap outside some blank second

/-- A layout with blanks before the first token, spans of both kinds, an empty token, a wide blank
and a last token that is left open. -/
def mixedLayout : Layout where
  lead := [' ']
  row := [
    (⟨[.plain 's', .span '"' ['\x27', 't'], .span '\x27' []], none⟩, ['\t', '\u3000']),
    (⟨[.span '"' []], none⟩, [' ']),
    (⟨[.plain 'a'], some ('"', [' ', '\x27'])⟩, [])]

/-- A line of three tokens whose last is left open, alone and after a gap. -/
theorem tokens_grammar_mixed : mixedLayout.Formed ∧
    mixedLayout.line = " s\"\x27t\"\x27\x27\t\u3000\"\" a\" \x27" ∧
      tokens mixedLayout.line = ["s\x27t", "", "a \x27"] ∧
      EndsOutside "say \"x y\"" ∧ AllBlank "\t ".toList ∧
      tokens ("say \"x y\"" ++ "\t " ++ mixedLayout.line) =
        tokens "say \"x y\"" ++ tokens mixedLayout.line := by
  obtain ⟨_, cut, _, apart⟩ := tokens_grammar
  have formed : mixedLayout.Formed := ⟨by decide, by decide⟩
  have said : EndsOutside "say \"x y\"" :=
    ⟨⟨[], [(⟨[.plain 's', .plain 'a', .plain 'y'], none⟩, [' ']),
      (⟨[.span '"' ['x', ' ', 'y']], none⟩, [])]⟩, ⟨by decide, by decide⟩, by decide, by decide⟩
  refine ⟨formed, by decide, ?_, said, by decide, ?_⟩
  · rw [cut mixedLayout formed]
    decide
  · exact apart _ _ _ said (by decide) (by decide)

end Switchboard.Line
