import Mathlib.Tactic.Common
import TemplateFunctions.Proofs.Definition

/-!
The grammar of a declaration, line by line.

A declaration is read with two searches through the same text. Here both are said without searching:
the name by the characters that it is made of, and the parameter list by the line that it stands on.

* `Text.lines`: the lines of a text, with `Text.lines_induction` to go through them.
* `NameStart`, `NamePart`, `Names`: the characters of a name and the name that a text declares.
* `HasPair`, `Spans`, `Lists`: the line that has parameters, and the parameters of that line.
* `paramsOf_eq_iff_lists`: **the parameter list is the widest pair of the first line that has one.**
* `read_follows_grammar`: **a text is read as its grammar says, and refused as a whole.**
-/

namespace TemplateFunctions

/-! ### Lines -/

namespace Text

/-- The lines of a text: what stands between its line breaks. -/
def lines (t : Text) : List Text :=
  t.splitOn '\n'

lemma lines_of_notMem {t : Text} (h : '\n' ∉ t) : t.lines = [t] :=
  List.splitOn_eq_singleton h

/-- A line, a line break, and the lines behind it. -/
lemma lines_append {line : Text} (h : '\n' ∉ line) (t : Text) :
    (line ++ '\n' :: t).lines = line :: t.lines :=
  List.splitOn_append_cons_self_of_not_mem h t

/-- What holds of a last line, and of a line in front of a text that it holds of, holds of every
text. -/
@[elab_as_elim]
lemma lines_induction {P : Text → Prop} (last : ∀ line, '\n' ∉ line → P line)
    (cons : ∀ line t, '\n' ∉ line → P t → P (line ++ '\n' :: t)) (t : Text) : P t := by
  suffices h : ∀ line, '\n' ∉ line → P (line ++ t) from h [] List.not_mem_nil
  induction t with
  | nil =>
      intro line hline
      rw [List.append_nil]
      exact last line hline
  | cons c t ih =>
      intro line hline
      by_cases hc : c = '\n'
      · rw [hc]
        exact cons line t hline (ih [] List.not_mem_nil)
      · have hlonger : '\n' ∉ line ++ [c] := by simp [hline, Ne.symm hc]
        have := ih (line ++ [c]) hlonger
        rwa [List.append_assoc] at this

end Text

namespace Declaration

/-! ### Names -/

/-- Tab, line feed, vertical tab, form feed, carriage return and space. -/
def Blank (c : Char) : Prop := c ∈ ['\t', '\n', '\x0b', '\x0c', '\r', ' ']

/-- An ASCII letter, an underscore, or a character from U+007F on. -/
def NameStart (c : Char) : Prop :=
  ('a' ≤ c ∧ c ≤ 'z') ∨ ('A' ≤ c ∧ c ≤ 'Z') ∨ c = '_' ∨ '\x7f' ≤ c

/-- A character that may begin a name, or an ASCII digit. -/
def NamePart (c : Char) : Prop := NameStart c ∨ ('0' ≤ c ∧ c ≤ '9')

/-- **The name that a text declares**: behind blanks, the longest run that starts and goes on like a
name. -/
inductive Names : Text → Text → Prop
  | intro {blanks tail rest : Text} {first : Char} : (∀ c ∈ blanks, Blank c) → NameStart first →
      (∀ c ∈ tail, NamePart c) → (∀ c ∈ rest.head?, ¬ NamePart c) →
      Names (blanks ++ (first :: tail ++ rest)) (first :: tail)

/-- The first character of a text that is not blank. -/
inductive FirstShown : Text → Char → Prop
  | intro {blanks rest : Text} {c : Char} : (∀ b ∈ blanks, Blank b) → ¬ Blank c →
      FirstShown (blanks ++ c :: rest) c

lemma isBlank_iff {c : Char} : isBlank c = true ↔ Blank c := by
  simp only [isBlank, Blank, Bool.or_eq_true, beq_iff_eq, Bool.and_eq_true, decide_eq_true_eq,
    List.mem_cons, List.not_mem_nil, or_false, Char.le_def, UInt32.le_iff_toNat_le, Char.ext_iff,
    ← UInt32.toNat_inj]
  simp only [Char.reduceVal, UInt32.reduceToNat]
  omega

/-- An identifier begins like a name. -/
lemma isStart_iff {c : Char} : Identifier.isStart c = true ↔ NameStart c := by
  have halpha : c.isAlpha = (c.isUpper || c.isLower) := rfl
  have hupper : c.isUpper = decide ('A' ≤ c ∧ c ≤ 'Z') := rfl
  have hlower : c.isLower = (decide ('a' ≤ c) && decide (c ≤ 'z')) := rfl
  simp only [Identifier.isStart, NameStart, halpha, hupper, hlower, Bool.or_eq_true, beq_iff_eq,
    Bool.and_eq_true, decide_eq_true_eq]
  tauto

lemma isPart_iff {c : Char} : Identifier.isPart c = true ↔ NamePart c := by
  have hdigit : c.isDigit = (decide ('0' ≤ c) && decide (c ≤ '9')) := rfl
  simp only [Identifier.isPart, NamePart, hdigit, Bool.or_eq_true, isStart_iff, Bool.and_eq_true,
    decide_eq_true_eq]

lemma isBlank_eq_false_iff {c : Char} : isBlank c = false ↔ ¬ Blank c := by
  rw [← isBlank_iff, Bool.not_eq_true]

lemma isPart_eq_false_iff {c : Char} : Identifier.isPart c = false ↔ ¬ NamePart c := by
  rw [← isPart_iff, Bool.not_eq_true]

lemma blank_of_mem_takeWhile {t : Text} {c : Char} (hc : c ∈ t.takeWhile isBlank) : Blank c :=
  isBlank_iff.1 (List.all_eq_true.1 List.all_takeWhile c hc)

/-- The blanks at the start of a text are dropped, and no other character. -/
lemma dropWhile_isBlank {blanks rest : Text} {c : Char} (hblanks : ∀ b ∈ blanks, Blank b)
    (hc : ¬ Blank c) : (blanks ++ c :: rest).dropWhile isBlank = c :: rest := by
  rw [List.dropWhile_append_of_pos fun b hb => isBlank_iff.2 (hblanks b hb),
    List.dropWhile_cons_of_neg fun h => hc (isBlank_iff.1 h)]

/-- The first character that is not blank is where the reading of a name begins. -/
lemma firstShown_iff {t : Text} {c : Char} :
    FirstShown t c ↔ (t.dropWhile isBlank).head? = some c := by
  constructor
  · rintro ⟨hblanks, hc⟩
    rw [dropWhile_isBlank hblanks hc, List.head?_cons]
  · intro h
    obtain ⟨rest, hrest⟩ := List.head?_eq_some_iff.1 h
    have hc : ¬ Blank c := isBlank_eq_false_iff.1 (Text.of_mem_head?_dropWhile h)
    have hshown : FirstShown (t.takeWhile isBlank ++ c :: rest) c :=
      .intro (fun _ => blank_of_mem_takeWhile) hc
    rwa [← hrest, List.takeWhile_append_dropWhile] at hshown

lemma NameStart.not_blank {c : Char} (h : NameStart c) : ¬ Blank c := by
  rw [← isBlank_iff, Identifier.isBlank_of_isStart (isStart_iff.2 h)]
  exact Bool.false_ne_true

/-- **The declared name is the identifier behind the blanks.** -/
lemma names_iff {t name : Text} :
    Names t name ↔ ∃ rest, Identifier.split? (t.dropWhile isBlank) = some (name, rest) := by
  constructor
  · intro h
    cases h with
    | @intro _ tail rest first hblanks hfirst htail hrest =>
        refine ⟨rest, ?_⟩
        rw [List.cons_append, dropWhile_isBlank hblanks hfirst.not_blank, ← List.cons_append,
          Identifier.split?_eq_some_iff]
        refine ⟨⟨?_, fun c hc => ?_⟩, rfl⟩
        · rw [isIdentifier, Bool.and_eq_true, List.all_eq_true]
          exact ⟨isStart_iff.2 hfirst, fun c hc => isPart_iff.2 (htail c hc)⟩
        · exact isPart_eq_false_iff.2 (hrest c hc)
  · rintro ⟨rest, hsplit⟩
    obtain ⟨⟨hname, hmax⟩, hdrop⟩ := Identifier.split?_eq_some_iff.1 hsplit
    cases name with
    | nil => cases hname
    | cons first tail =>
        rw [isIdentifier, Bool.and_eq_true, List.all_eq_true] at hname
        have hnames := Names.intro (fun _ => blank_of_mem_takeWhile (t := t))
          (isStart_iff.1 hname.1) (fun c hc => isPart_iff.1 (hname.2 c hc))
          (fun c hc => isPart_eq_false_iff.1 (hmax c hc))
        rwa [← hdrop, List.takeWhile_append_dropWhile] at hnames

/-- **A name is declared exactly if the first character that is not blank begins one.** -/
lemma exists_names_iff {t : Text} :
    (∃ name, Names t name) ↔ ∃ c, FirstShown t c ∧ NameStart c := by
  simp only [names_iff, firstShown_iff, ← isStart_iff]
  cases t.dropWhile isBlank with
  | nil => simp [Identifier.split?]
  | cons c rest => simp [Identifier.split?]

/-! ### Parameter lists -/

/-- A line with parameters: somewhere behind a `(` there is a `)`. -/
def HasPair (line : Text) : Prop := ∃ a b c, line = a ++ '(' :: (b ++ ')' :: c)

/-- **The parameters of a line**: what stands between its first `(` and its last `)`. -/
def Spans (line params : Text) : Prop :=
  ∃ a c, line = a ++ '(' :: (params ++ ')' :: c) ∧ '(' ∉ a ∧ ')' ∉ c

/-- **The parameters on a list of lines**: those of the first line that has any. -/
inductive Lists (lines : List Text) : Text → Prop
  | absent : (∀ line ∈ lines, ¬ HasPair line) → Lists lines []
  | found {above below : List Text} {line params : Text} : lines = above ++ line :: below →
      (∀ earlier ∈ above, ¬ HasPair earlier) → Spans line params → Lists lines params

/-- A line that has parameters has a first `(` and a last `)` around them. -/
lemma HasPair.exists_spans {line : Text} (h : HasPair line) : ∃ params, Spans line params := by
  obtain ⟨a, b, c, rfl⟩ := h
  obtain ⟨u, v, huv, hu⟩ := List.eq_append_cons_of_mem (by simp : '(' ∈ a ++ ['('])
  have hline : a ++ '(' :: (b ++ ')' :: c) = u ++ '(' :: (v ++ (b ++ ')' :: c)) := by
    calc a ++ '(' :: (b ++ ')' :: c) = a ++ ['('] ++ (b ++ ')' :: c) := by simp
      _ = u ++ '(' :: (v ++ (b ++ ')' :: c)) := by rw [huv]; simp
  cases hlast : Text.beforeLast? ')' (v ++ (b ++ ')' :: c)) with
  | none => exact absurd (by simp) (Text.beforeLast?_eq_none_iff.1 hlast)
  | some params =>
      obtain ⟨w, hw, hnone⟩ := Text.beforeLast?_eq_some_iff.1 hlast
      exact ⟨params, u, w, by rw [hline, hw], hu, hnone⟩

/-- A line with something between two parentheses has parameters. -/
lemma Spans.hasPair {line params : Text} (h : Spans line params) : HasPair line := by
  obtain ⟨a, c, hline, -, -⟩ := h
  exact ⟨a, params, c, hline⟩

/-- What a `(` opens is looked for on its own line. -/
lemma throughLine?_append {line rest : Text} (hline : '\n' ∉ line)
    (hrest : ∀ c ∈ rest.head?, c = '\n') :
    throughLine? (line ++ rest) = Text.beforeLast? ')' line := by
  have hall : ∀ c ∈ line, (c != '\n') = true := by
    intro c hc
    simpa using fun h : c = '\n' => hline (h ▸ hc)
  have hnone : rest.takeWhile (· != '\n') = [] := by
    cases rest with
    | nil => rfl
    | cons c t => simp [hrest c rfl]
  rw [throughLine?, List.takeWhile_append_of_pos hall, hnone, List.append_nil]

/-- The search ends on the first line that has parameters. -/
lemma paramsOf_of_spans {line rest params : Text} (hline : '\n' ∉ line)
    (hrest : ∀ c ∈ rest.head?, c = '\n') (h : Spans line params) :
    paramsOf (line ++ rest) = params := by
  obtain ⟨a, c, rfl, ha, hc⟩ := h
  have hbehind : '\n' ∉ params ++ ')' :: c := by
    intro hmem
    exact hline (List.mem_append_right a (List.mem_cons_of_mem _ hmem))
  have hfound : throughLine? ((params ++ ')' :: c) ++ rest) = some params := by
    rw [throughLine?_append hbehind hrest]
    exact Text.beforeLast?_eq_some_iff.2 ⟨c, rfl, hc⟩
  rw [List.append_assoc, paramsOf_append ha, List.cons_append, paramsOf, if_pos rfl, hfound]

/-- The search goes over a line without parameters. -/
lemma paramsOf_of_not_hasPair {line rest : Text} (hline : '\n' ∉ line)
    (hrest : ∀ c ∈ rest.head?, c = '\n') (h : ¬ HasPair line) :
    paramsOf (line ++ rest) = paramsOf rest := by
  induction line with
  | nil => rfl
  | cons c line ih =>
      have hline' : '\n' ∉ line := fun hmem => hline (List.mem_cons_of_mem c hmem)
      have hpair : ¬ HasPair line := by
        rintro ⟨a, b, w, rfl⟩
        exact h ⟨c :: a, b, w, rfl⟩
      rw [List.cons_append, paramsOf]
      split
      · next hopen =>
        -- no `)` follows on this line, since the two would be a pair
        have hclose : ')' ∉ line := by
          intro hmem
          obtain ⟨b, w, rfl⟩ := List.append_of_mem hmem
          exact h ⟨[], b, w, by rw [hopen]; rfl⟩
        rw [throughLine?_append hline' hrest, Text.beforeLast?_eq_none_iff.2 hclose]
        exact ih hline' hpair
      · exact ih hline' hpair

/-- The first line decides, or, if it has no parameters, what follows it. -/
lemma paramsOf_append_iff {line rest params : Text} (hline : '\n' ∉ line)
    (hrest : ∀ c ∈ rest.head?, c = '\n') :
    paramsOf (line ++ rest) = params ↔
      Spans line params ∨ ¬ HasPair line ∧ paramsOf rest = params := by
  by_cases hpair : HasPair line
  · obtain ⟨found, hfound⟩ := hpair.exists_spans
    rw [paramsOf_of_spans hline hrest hfound]
    constructor
    · rintro rfl
      exact .inl hfound
    · rintro (hspans | ⟨hnone, -⟩)
      · rw [← paramsOf_of_spans hline hrest hfound, paramsOf_of_spans hline hrest hspans]
      · exact absurd hpair hnone
  · rw [paramsOf_of_not_hasPair hline hrest hpair]
    constructor
    · exact fun h => .inr ⟨hpair, h⟩
    · rintro (hspans | ⟨-, h⟩)
      · exact absurd hspans.hasPair hpair
      · exact h

/-- No line has no parameters. -/
lemma lists_nil_iff {params : Text} : Lists [] params ↔ [] = params := by
  constructor
  · rintro (_ | ⟨hsplit, -, -⟩)
    · rfl
    · exact absurd hsplit.symm (by simp)
  · rintro rfl
    exact .absent nofun

/-- The first line decides, or, if it has no parameters, the lines below it. -/
lemma lists_cons_iff {line params : Text} {lines : List Text} :
    Lists (line :: lines) params ↔ Spans line params ∨ ¬ HasPair line ∧ Lists lines params := by
  constructor
  · intro h
    cases h with
    | absent hnone =>
        exact .inr ⟨hnone line List.mem_cons_self,
          .absent fun l hl => hnone l (List.mem_cons_of_mem line hl)⟩
    -- the line with the parameters is the first one, or the first one stands above it
    | @found above below found _ hsplit hearlier hspans =>
        cases above with
        | nil =>
            obtain ⟨rfl, -⟩ := List.cons.inj hsplit
            exact .inl hspans
        | cons first above =>
            obtain ⟨rfl, hrest⟩ := List.cons.inj hsplit
            exact .inr ⟨hearlier line List.mem_cons_self,
              .found hrest (fun l hl => hearlier l (List.mem_cons_of_mem line hl)) hspans⟩
  · rintro (hspans | ⟨hpair, h⟩)
    · exact .found (List.nil_append _).symm nofun hspans
    · cases h with
      | absent hnone => exact .absent (List.forall_mem_cons.2 ⟨hpair, hnone⟩)
      | @found above below found _ hsplit hearlier hspans =>
          rw [hsplit, ← List.cons_append]
          exact .found rfl (List.forall_mem_cons.2 ⟨hpair, hearlier⟩) hspans

/-- **The search finds the parameters of the lines.** -/
theorem paramsOf_eq_iff_lists {t params : Text} :
    paramsOf t = params ↔ Lists t.lines params := by
  induction t using Text.lines_induction generalizing params with
  | last line hline =>
      have hstep : paramsOf (line ++ []) = params ↔ _ := paramsOf_append_iff hline nofun
      rw [List.append_nil] at hstep
      rw [hstep, Text.lines_of_notMem hline, lists_cons_iff, lists_nil_iff, paramsOf]
  | cons line t hline ih =>
      have hbreak : paramsOf ('\n' :: t) = paramsOf t := by
        rw [paramsOf, if_neg (by decide)]
      rw [paramsOf_append_iff hline (by simp), Text.lines_append hline, lists_cons_iff, hbreak, ih]

/-! ### Declarations -/

/-- **A text is read as its grammar says**: it declares a name exactly if its first character that
is not blank begins one, and then the name is the longest run there; the parameters are those of the
first line with a `)` behind a `(`, whatever the name. Any other text is refused as a whole. -/
theorem read_follows_grammar (t : Text) :
    ((∃ d, read t = .ok d) ↔ ∃ c, FirstShown t c ∧ NameStart c) ∧
    (∀ d, read t = .ok d ↔ Names t d.name ∧ Lists t.lines d.params) ∧
    ∀ u, read t = .error u ↔ u.text = t ∧ ¬ ∃ c, FirstShown t c ∧ NameStart c := by
  have hok (d : Declaration) : read t = .ok d ↔ Names t d.name ∧ Lists t.lines d.params := by
    rw [names_iff, ← paramsOf_eq_iff_lists, read]
    cases Identifier.split? (t.dropWhile isBlank) with
    | none => simp
    | some found =>
        obtain ⟨name, params⟩ := d
        simp [Prod.ext_iff, and_comm]
  have hsome : (∃ d, read t = .ok d) ↔ ∃ c, FirstShown t c ∧ NameStart c := by
    rw [← exists_names_iff]
    constructor
    · rintro ⟨d, hd⟩
      exact ⟨d.name, ((hok d).1 hd).1⟩
    · rintro ⟨name, hname⟩
      exact ⟨⟨name, paramsOf t⟩, (hok _).2 ⟨hname, paramsOf_eq_iff_lists.1 rfl⟩⟩
  refine ⟨hsome, hok, fun u => ?_⟩
  rw [← hsome]
  constructor
  · intro hu
    refine ⟨text_of_read hu, ?_⟩
    rintro ⟨d, hd⟩
    cases hu.symm.trans hd
  · rintro ⟨rfl, hnone⟩
    cases hread : read u.text with
    | ok d => exact absurd ⟨d, hread⟩ hnone
    | error v =>
        have hv : v = u := congrArg Unnamed.mk (text_of_read hread)
        rw [hv]

/-- A `)` that no `(` stands in front of makes no pair; the widest pair of the next line does. -/
example : read "\n card)\n(a) ((b)\n(c)".toList = .ok ⟨"card".toList, "a) ((b".toList⟩ := by
  decide

end Declaration

end TemplateFunctions
