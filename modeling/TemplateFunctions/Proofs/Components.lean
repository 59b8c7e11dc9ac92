import Mathlib.Tactic.Common
import TemplateFunctions.Path

/-!
The components of a path, and dropping the last one.

A path is read as its components: a leading slash or `.`, and the names between slashes. Empty parts
and other parts `.` are no components, and `..` is a name like any other. The parent of a path is
found by cutting its text; here it is said by the components.

* `parts_eq_splitOn`, `names_ofParts`: the parts of a path, and the names among them.
* `parts_of_prefix`: the parts of a beginning of a path.
* `components`: **the components of a path.**
* `Drops`: **a path with its last component dropped**, which is the shortest beginning of the path
  that has all the others.
* `parent?_eq_some_iff`, `parent?_eq_none_iff`: the parent is found by dropping a component; there
  is none without a component to drop.
-/

namespace TemplateFunctions

namespace Path

/-! ### Parts -/

/-- The parts are what is split at the slashes. -/
lemma parts_eq_splitOn (p : Path) : parts p = p.splitOn '/' := by
  induction p with
  | nil => rfl
  | cons c p ih =>
      rw [parts, List.splitOn_cons_eq_if_modifyHead, ih]
      by_cases hc : c = '/'
      · simp [hc]
      · obtain ⟨part, others, hsplit⟩ := List.exists_cons_of_ne_nil (List.splitOn_ne_nil '/' p)
        simp [hc, hsplit]

lemma parts_ne_nil (p : Path) : parts p ≠ [] := by
  rw [parts_eq_splitOn]
  exact List.splitOn_ne_nil '/' p

lemma parts_append_slash (p q : Path) : parts (p ++ '/' :: q) = parts p ++ parts q := by
  simp only [parts_eq_splitOn, List.splitOn_append_cons_self]

/-- No part has a slash. -/
lemma slash_notMem_of_mem_parts {p : Path} {part : Text} (h : part ∈ parts p) : '/' ∉ part := by
  induction p generalizing part with
  | nil => simp_all [parts]
  | cons c p ih =>
      rw [parts] at h
      split at h
      · rcases List.mem_cons.1 h with rfl | h
        · exact List.not_mem_nil
        · exact ih h
      · next hc =>
        obtain ⟨first, others, hp⟩ := List.exists_cons_of_ne_nil (parts_ne_nil p)
        rw [hp] at h ih
        rcases List.mem_cons.1 h with rfl | h
        · simp [ih List.mem_cons_self, Ne.symm hc]
        · exact ih (List.mem_cons_of_mem first h)

lemma parts_ofParts {ps : List Text} (h : ∀ part ∈ ps, '/' ∉ part) (hne : ps ≠ []) :
    parts (ofParts ps) = ps := by
  rw [parts_eq_splitOn, ofParts, List.splitOn_intercalate '/' h hne]

/-- Fewer parts make a beginning of the path. -/
lemma ofParts_prefix {ps qs : List Text} (h : ps <+: qs) : ofParts ps <+: ofParts qs := by
  induction ps generalizing qs with
  | nil => exact List.nil_prefix
  | cons part ps ih =>
      obtain ⟨qs', rfl, hps⟩ := List.cons_prefix_iff.1 h
      by_cases hqs : qs' = []
      · subst hqs
        obtain rfl := List.prefix_nil.1 hps
        exact List.prefix_rfl
      · rw [ofParts, ofParts, List.intercalate_cons_of_ne_nil hqs]
        by_cases hnil : ps = []
        · rw [hnil, List.intercalate_singleton, List.append_assoc]
          exact List.prefix_append _ _
        · rw [List.intercalate_cons_of_ne_nil hnil]
          exact (List.prefix_append_right_inj _).2 (ih hps)

/-- **The parts of a beginning of a path** are parts of the path and a beginning of the next one. -/
lemma parts_of_prefix {r p : Path} (h : r <+: p) :
    ∃ init a b rest, parts r = init ++ [a] ∧ parts p = init ++ (a ++ b) :: rest := by
  induction r generalizing p with
  | nil =>
      obtain ⟨first, others, hp⟩ := List.exists_cons_of_ne_nil (parts_ne_nil p)
      exact ⟨[], [], first, others, rfl, hp⟩
  | cons c r ih =>
      obtain ⟨p, rfl, hr⟩ := List.cons_prefix_iff.1 h
      obtain ⟨init, a, b, rest, hparts, hparts'⟩ := ih hr
      rw [parts, parts]
      by_cases hc : c = '/'
      · exact ⟨[] :: init, a, b, rest, by simp [hc, hparts], by simp [hc, hparts']⟩
      · cases init with
        | nil => exact ⟨[], c :: a, b, rest, by simp [hc, hparts], by simp [hc, hparts']⟩
        | cons part init =>
            exact ⟨(c :: part) :: init, a, b, rest, by simp [hc, hparts], by simp [hc, hparts']⟩

/-! ### Names -/

/-- The parts of a path that are not idle. -/
def names (p : Path) : List Text := (parts p).filter (!isIdle ·)

lemma names_append_slash (p q : Path) : names (p ++ '/' :: q) = names p ++ names q := by
  rw [names, parts_append_slash, List.filter_append]
  rfl

lemma names_slash (p : Path) : names ('/' :: p) = names p := names_append_slash [] p

/-- The names of a path with certain parts. -/
lemma names_ofParts {ps : List Text} (h : ∀ part ∈ ps, '/' ∉ part) :
    names (ofParts ps) = ps.filter (!isIdle ·) := by
  by_cases hps : ps = []
  · rw [hps]
    rfl
  · rw [names, parts_ofParts h hps]

/-- A path is tight if no shorter beginning of it has the same names. -/
def Tight (p : Path) : Prop := ∀ r, r <+: p → names r = names p → r = p

lemma isIdle_append {a : Text} (ha : isIdle a = false) (b : Text) : isIdle (a ++ b) = false := by
  simp only [isIdle, Bool.or_eq_false_iff, decide_eq_false_iff_not] at ha ⊢
  refine ⟨fun h => ha.1 (List.append_eq_nil_iff.1 h).1, fun h => ?_⟩
  rcases List.append_eq_singleton_iff.1 h with ⟨hnil, -⟩ | ⟨hdot, -⟩
  · exact ha.1 hnil
  · exact ha.2 hdot

/-- The last part of the path is a name. -/
def NamesLast (p : Path) : Prop :=
  ∃ init last, parts p = init ++ [last] ∧ isIdle last = false

/-- An idle part alone ends in no name. -/
lemma NamesLast.isIdle_eq_false {p : Path} (h : p.NamesLast) : isIdle p = false := by
  obtain ⟨init, last, hparts, hname⟩ := h
  have hne (part : Text) (hidle : isIdle part = true) : [part] ≠ init ++ [last] := by
    intro h
    rw [eq_comm, List.append_eq_singleton_iff] at h
    rcases h with ⟨-, hlast⟩ | ⟨-, hlast⟩
    · cases hlast
      exact absurd (hidle.symm.trans hname) (by decide)
    · cases hlast
  rw [isIdle, Bool.or_eq_false_iff, decide_eq_false_iff_not, decide_eq_false_iff_not]
  constructor
  · rintro rfl
    exact hne [] rfl hparts
  · rintro rfl
    exact hne ['.'] rfl hparts

/-- What stands behind a slash decides whether a path ends in a name. -/
lemma namesLast_append_slash_iff {p q : Path} : (p ++ '/' :: q).NamesLast ↔ q.NamesLast := by
  constructor
  · rintro ⟨init, last, hparts, hname⟩
    obtain ⟨init', last', hq⟩ := (List.eq_nil_or_concat (parts q)).resolve_left (parts_ne_nil q)
    rw [List.concat_eq_append] at hq
    rw [parts_append_slash, hq, ← List.append_assoc] at hparts
    obtain ⟨-, hlast⟩ := List.append_inj' hparts rfl
    cases hlast
    exact ⟨init', last, hq, hname⟩
  · rintro ⟨init, last, hparts, hname⟩
    exact ⟨parts p ++ init, last, by rw [parts_append_slash, hparts, List.append_assoc], hname⟩

/-- **A path that ends in a name is tight.** -/
lemma NamesLast.tight {p : Path} (h : p.NamesLast) : Tight p := by
  obtain ⟨init', last, hlast, hname⟩ := h
  intro r hr hsame
  obtain ⟨init, a, b, rest, hparts, hparts'⟩ := parts_of_prefix hr
  have hlast' : ((a ++ b) :: rest).getLast? = some last := by
    have hwhole : (parts p).getLast? = some last := by rw [hlast, List.getLast?_concat]
    rwa [hparts', List.getLast?_append, List.getLast?_cons, Option.some_or,
      ← List.getLast?_cons] at hwhole
  rw [names, names, hparts, hparts', List.filter_append, List.filter_append,
    List.append_cancel_left_eq] at hsame
  -- `last` is a name behind `init`, and the only part of `r` there is `a`
  have hkept : last ∈ [a].filter (!isIdle ·) := by
    rw [hsame]
    exact List.mem_filter.2 ⟨List.mem_of_getLast? hlast', by simp [hname]⟩
  obtain rfl := List.mem_singleton.1 (List.mem_filter.1 hkept).1
  rw [List.filter_cons_of_pos (by simp [hname]),
    List.filter_cons_of_pos (by simp [isIdle_append hname]), List.filter_nil,
    List.cons.injEq] at hsame
  have hb : b = [] := List.self_eq_append_right.1 hsame.1
  have hrest : rest = [] := by
    by_contra hne
    rw [List.getLast?_cons_of_ne_nil hne] at hlast'
    have hmem : last ∈ rest.filter (!isIdle ·) :=
      List.mem_filter.2 ⟨List.mem_of_getLast? hlast', by simp [hname]⟩
    rw [← hsame.2] at hmem
    cases hmem
  rw [hb, hrest, List.append_nil, ← hparts] at hparts'
  rw [← ofParts_parts r, ← hparts', ofParts_parts]

/-! ### Cutting at the end -/

/-- The parts of a path up to the last one that is not idle. -/
def trimmedParts (p : Path) : List Text := ((parts p).reverse.dropWhile isIdle).reverse

lemma dropIdle_eq (p : Path) : dropIdle p = ofParts (trimmedParts p) := rfl

/-- They are the first parts of the path. -/
lemma trimmedParts_prefix_parts (p : Path) : trimmedParts p <+: parts p := by
  rw [trimmedParts, ← List.reverse_suffix, List.reverse_reverse]
  exact List.dropWhile_suffix _

/-- None of them has a slash. -/
lemma slash_notMem_trimmedParts {p : Path} {part : Text} (h : part ∈ trimmedParts p) :
    '/' ∉ part :=
  slash_notMem_of_mem_parts ((trimmedParts_prefix_parts p).subset h)

/-- The other ones are no names. -/
lemma filter_trimmedParts (p : Path) : (trimmedParts p).filter (!isIdle ·) = names p := by
  have hdropped (ps : List Text) :
      (ps.dropWhile isIdle).filter (!isIdle ·) = ps.filter (!isIdle ·) := by
    induction ps with
    | nil => rfl
    | cons part ps ih => by_cases hpart : isIdle part = true <;> simp [hpart, ih]
  rw [trimmedParts, List.filter_reverse, hdropped, ← List.filter_reverse, List.reverse_reverse]
  rfl

lemma dropIdle_prefix_self (p : Path) : dropIdle p <+: p := by
  have h := ofParts_prefix (trimmedParts_prefix_parts p)
  rwa [ofParts_parts] at h

lemma names_dropIdle (p : Path) : names (dropIdle p) = names p := by
  rw [dropIdle_eq, names_ofParts fun _ => slash_notMem_trimmedParts, filter_trimmedParts]

/-- Without the idle parts at its end, a path is empty or ends in a name. -/
lemma eq_nil_or_namesLast_dropIdle (p : Path) : dropIdle p = [] ∨ (dropIdle p).NamesLast := by
  rcases List.eq_nil_or_concat (trimmedParts p) with hps | ⟨init, last, hps⟩
  · left
    rw [dropIdle_eq, hps]
    rfl
  · right
    rw [List.concat_eq_append] at hps
    refine ⟨init, last, ?_, ?_⟩
    · rw [dropIdle_eq, parts_ofParts (fun _ => slash_notMem_trimmedParts) (by simp [hps]), hps]
    · have hnot := List.head?_dropWhile_not isIdle (parts p).reverse
      rw [← List.getLast?_reverse, ← trimmedParts, hps, List.getLast?_concat] at hnot
      exact hnot

lemma dropLast_prefix_self (p : Path) : dropLast p <+: p := by
  have hlast := List.dropLast_prefix (parts p)
  have h := ofParts_prefix hlast
  rwa [ofParts_parts] at h

/-- A path that ends in a name has one name less without its last part. -/
lemma NamesLast.names_eq {p : Path} (h : p.NamesLast) :
    ∃ last, names p = names (dropLast p) ++ [last] := by
  obtain ⟨init, last, hparts, hname⟩ := h
  have hinit : dropLast p = ofParts init := by rw [dropLast, hparts, List.dropLast_concat]
  have hslash : ∀ part ∈ init, '/' ∉ part := fun part hpart =>
    slash_notMem_of_mem_parts (hparts ▸ List.mem_append_left _ hpart)
  refine ⟨last, ?_⟩
  rw [hinit, names_ofParts hslash, names, hparts, List.filter_append]
  simp [hname]

/-! ### Components -/

/-- A component of a path: the root or the `.` that it starts with, or a name. -/
inductive Component where
  | root
  | here
  | name (part : Text)
  deriving DecidableEq, Repr

/-- The component that a path starts with, if it is no name. -/
def lead (p : Path) : List Component :=
  if p.head? = some '/' then [.root] else if (parts p).head? = some ['.'] then [.here] else []

/-- **The components of a path.** Only at its start does a slash or a `.` count. -/
def components (p : Path) : List Component := lead p ++ (names p).map .name

/-- A `.` in front of a slash is a component at the start. -/
lemma lead_here (p : Path) : lead ('.' :: '/' :: p) = [.here] := by
  have hparts : parts ('.' :: '/' :: p) = ['.'] :: parts p := parts_append_slash ['.'] p
  simp [lead, hparts]

/-- The name that a component is, if it is one. -/
def Component.name? : Component → Option Text
  | .name part => some part
  | _ => none

/-- The names can be told from the components. -/
lemma filterMap_components (p : Path) : (components p).filterMap Component.name? = names p := by
  have hlead : (lead p).filterMap Component.name? = [] := by
    rw [lead]
    split
    · rfl
    · split <;> rfl
  have hnames : ((names p).map Component.name).filterMap Component.name? = names p := by
    rw [List.filterMap_map]
    exact List.filterMap_some
  rw [components, List.filterMap_append, hlead, hnames, List.nil_append]

/-- **A path at its anchor**: the anchor, what stands behind it, and the component that the anchor
is. -/
inductive Anchored : Path → Path → List Component → Prop
  | root {body : Path} : Anchored ['/'] body [.root]
  | here {body : Path} : (∀ c ∈ body.head?, c = '/') → Anchored ['.'] body [.here]
  | bare {body : Path} : lead body = [] → Anchored [] body []

/-- Only a `.` in front of a slash, or alone, is a `.` that a path starts with. -/
lemma eq_of_head?_parts {p : Path} (h : (parts p).head? = some ['.']) :
    p = ['.'] ∨ ∃ q, p = '.' :: '/' :: q := by
  obtain ⟨others, hparts⟩ := List.head?_eq_some_iff.1 h
  rw [← ofParts_parts p, hparts]
  by_cases hothers : others = []
  · left
    rw [hothers]
    rfl
  · right
    exact ⟨ofParts others, List.intercalate_cons_of_ne_nil hothers⟩

/-- Every path is anchored. -/
lemma anchored_anchor (p : Path) : ∃ l, Anchored (anchor p).1 (anchor p).2 l := by
  rw [anchor.eq_def]
  split
  · exact ⟨_, .root⟩
  · exact ⟨_, .here (by simp)⟩
  · exact ⟨_, .here (by simp)⟩
  · next hroot hdot hhere =>
    have hslash : p.head? ≠ some '/' := by
      intro h
      obtain ⟨q, rfl⟩ := List.head?_eq_some_iff.1 h
      exact hroot q rfl
    have hnone : (parts p).head? ≠ some ['.'] := by
      intro h
      rcases eq_of_head?_parts h with rfl | ⟨q, rfl⟩
      · exact hdot rfl
      · exact hhere q rfl
    exact ⟨_, .bare (by rw [lead, if_neg hslash, if_neg hnone])⟩

namespace Anchored

variable {head body : Path} {l : List Component}

/-- The components of an anchored path. -/
lemma components_eq (h : Anchored head body l) :
    components (head ++ body) = l ++ (names body).map .name := by
  cases h with
  | root =>
      have hlead : lead ('/' :: body) = [.root] := rfl
      rw [List.singleton_append, components, hlead, names_slash]
  | here hbody =>
      cases body with
      | nil => rfl
      | cons c body =>
          cases hbody c rfl
          have hnames : names ('.' :: '/' :: body) = names body := names_append_slash ['.'] body
          rw [List.singleton_append, components, lead_here, hnames, names_slash]
  | bare hbody => rw [List.nil_append, components, hbody]

/-- Less behind the anchor is behind the same anchor, if it ends in a name. -/
lemma truncate (h : Anchored head body l) {b : Path} (hb : b <+: body)
    (hends : b = [] ∨ b.NamesLast) : Anchored head b l := by
  obtain ⟨v, rfl⟩ := hb
  cases h with
  | root => exact .root
  | here hbody =>
      refine .here fun c hc => hbody c ?_
      rw [Option.mem_def] at hc ⊢
      rw [List.head?_append, hc, Option.some_or]
  | bare hbody =>
      refine .bare ?_
      rcases hends with rfl | hlast
      · rfl
      · have hslash : b.head? ≠ some '/' := by
          intro hc
          obtain ⟨q, rfl⟩ := List.head?_eq_some_iff.1 hc
          cases hbody
        -- a `.` that `b` consists of would be a component, but `b` ends in a name
        have hdot : (parts b).head? ≠ some ['.'] := by
          intro hc
          rcases eq_of_head?_parts hc with rfl | ⟨q, rfl⟩
          · cases hlast.isIdle_eq_false
          · cases (lead_here (q ++ v)).symm.trans hbody
        rw [lead, if_neg hslash, if_neg hdot]

/-- A path that ends in a name does so behind its anchor. -/
lemma namesLast (h : Anchored head body l) (hbody : body.NamesLast) : (head ++ body).NamesLast := by
  cases h with
  | root => exact namesLast_append_slash_iff (p := []).2 hbody
  | here hstart =>
      cases body with
      | nil => cases hbody.isIdle_eq_false
      | cons c body =>
          cases hstart c rfl
          have hrest : NamesLast body := namesLast_append_slash_iff (p := []).1 hbody
          exact namesLast_append_slash_iff (p := ['.']).2 hrest
  | bare _ => exact hbody

/-- No shorter beginning of an anchored path that ends in a name, or at its anchor, has the same
components. -/
lemma shortest (h : Anchored head body l) (hends : body = [] ∨ body.NamesLast) {r : Path}
    (hr : r <+: head ++ body) (hsame : components r = components (head ++ body)) :
    r = head ++ body := by
  rcases hends with rfl | hlast
  · rw [List.append_nil] at hr hsame ⊢
    cases h with
    | bare _ => exact List.prefix_nil.1 hr
    | _ =>
        rcases List.prefix_cons_iff.1 hr with rfl | ⟨t, rfl, ht⟩
        · cases hsame
        · rw [List.prefix_nil.1 ht]
  · have hnames : names r = names (head ++ body) := by
      rw [← filterMap_components, hsame, filterMap_components]
    exact (h.namesLast hlast).tight r hr hnames

end Anchored

/-! ### Dropping a component -/

/-- **The path `q` is `p` with its last component dropped**: it is the shortest beginning of `p`
that has all components but that one. The root is not dropped. -/
structure Drops (p q : Path) : Prop where
  starts : q <+: p
  components : ∃ c, c ≠ .root ∧ components p = components q ++ [c]
  shortest : ∀ r : Path, r <+: q → r.components = q.components → r = q

/-- Only one path is left when the last component is dropped. -/
lemma Drops.unique {p q q' : Path} (h : p.Drops q) (h' : p.Drops q') : q = q' := by
  obtain ⟨c, -, hc⟩ := h.components
  obtain ⟨c', -, hc'⟩ := h'.components
  have hsame : q.components = q'.components := (List.append_inj' (hc.symm.trans hc') rfl).1
  rcases List.prefix_or_prefix_of_prefix h.starts h'.starts with hq | hq
  · exact h'.shortest q hq hsame
  · exact (h.shortest q' hq hsame.symm).symm

lemma Drops.length_lt {p q : Path} (h : p.Drops q) : q.length < p.length := by
  refine Nat.lt_of_le_of_ne h.starts.length_le fun hlength => ?_
  obtain ⟨c, -, hc⟩ := h.components
  rw [h.starts.eq_of_length hlength] at hc
  simp at hc

/-- What the parent is found as is the path with its last component dropped. -/
lemma drops_of_parent? {p q : Path} (h : parent? p = some q) : p.Drops q := by
  obtain ⟨l, hanchor⟩ := anchored_anchor p
  have hp := anchor_append p
  rw [parent?] at h
  generalize anchor p = parts at *
  obtain ⟨head, body⟩ := parts
  dsimp only at h hanchor hp
  subst hp
  have hnames := names_dropIdle body
  split at h
  · next hne =>
    cases h
    -- what is left is empty or ends in a name, so that no shorter path has its components
    have hends := eq_nil_or_namesLast_dropIdle (dropLast (dropIdle body))
    have hcut : dropIdle (dropLast (dropIdle body)) <+: body :=
      ((dropIdle_prefix_self _).trans (dropLast_prefix_self _)).trans (dropIdle_prefix_self body)
    have hanchor' := hanchor.truncate hcut hends
    obtain ⟨last, hlast⟩ := ((eq_nil_or_namesLast_dropIdle body).resolve_left hne).names_eq
    refine ⟨(List.prefix_append_right_inj head).2 hcut, ⟨.name last, by rintro ⟨⟩, ?_⟩,
      fun r => hanchor'.shortest hends⟩
    rw [hanchor.components_eq, hanchor'.components_eq, names_dropIdle (dropLast _), ← hnames,
      hlast, List.map_append, List.append_assoc]
    rfl
  · next hnil =>
    split at h
    · next hdot =>
      cases h
      subst hdot
      -- there is no name in the body, and the anchor itself is the component that is dropped
      rw [Decidable.not_not.1 hnil] at hnames
      refine ⟨List.nil_prefix, ⟨.here, by rintro ⟨⟩, ?_⟩, fun r hr _ => List.prefix_nil.1 hr⟩
      rw [hanchor.components_eq, ← hnames]
      cases hanchor
      rfl
    · cases h

/-- Without a parent a path has no component to drop. -/
lemma components_of_parent?_eq_none {p : Path} (h : parent? p = none) :
    components p = [] ∨ components p = [.root] := by
  obtain ⟨l, hanchor⟩ := anchored_anchor p
  have hp := anchor_append p
  rw [parent?] at h
  generalize anchor p = parts at *
  obtain ⟨head, body⟩ := parts
  dsimp only at h hanchor hp
  subst hp
  have hnames := names_dropIdle body
  split at h
  · cases h
  · next hnil =>
    rw [Decidable.not_not.1 hnil] at hnames
    rw [hanchor.components_eq, ← hnames]
    cases hanchor with
    | root => exact Or.inr rfl
    | here _ => cases h
    | bare _ => exact Or.inl rfl

/-- **The parent of a path is the path with its last component dropped.** -/
theorem parent?_eq_some_iff {p q : Path} : parent? p = some q ↔ p.Drops q := by
  constructor
  · exact drops_of_parent?
  · intro h
    cases hparent : parent? p with
    | some q' => rw [h.unique (drops_of_parent? hparent)]
    | none =>
        obtain ⟨c, hc, hcomponents⟩ := h.components
        rcases components_of_parent?_eq_none hparent with hnone | hroot
        · simp [hnone] at hcomponents
        · rw [hroot, eq_comm, List.append_eq_singleton_iff] at hcomponents
          rcases hcomponents with ⟨-, heq⟩ | ⟨-, heq⟩
          · cases heq
            exact absurd rfl hc
          · cases heq

/-- There is no parent exactly if there is no component to drop. -/
theorem parent?_eq_none_iff {p : Path} : parent? p = none ↔ ∀ q, ¬ p.Drops q := by
  simp only [← parent?_eq_some_iff, ← Option.eq_none_iff_forall_ne_some]

end Path

end TemplateFunctions
