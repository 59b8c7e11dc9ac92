import Mathlib.Logic.Relation
import TemplateFunctions.Config.Load
import TemplateFunctions.Proofs.Components

/-!
The nearest configuration.

A configuration file is looked for in a directory, in the path with its last component dropped, and
so on until nothing is left to drop. Whatever stands under the name of the file ends the search.

* `Path.Upwards`: a path and all that is left when components are dropped; `mem_ancestors_iff` and
  `pairwise_ancestors`: the ancestors are these, from the longest to the shortest.
* `Config.Present`: something stands where a configuration file is looked for.
* `Config.Searches`: the search, turn by turn; `searches_iff`: **it comes to an end with what is
  discovered.**
* `discover_nearest`: **what is discovered is nearest to the start.**
-/

namespace TemplateFunctions

namespace Path

/-! ### Ancestors -/

/-- The path `a` is `p`, or what is left of it when components are dropped from its end. -/
def Upwards (p a : Path) : Prop := Relation.ReflTransGen Drops p a

/-- A path stands in front of the ancestors of its parent. -/
lemma ancestors_of_drops {p q : Path} (h : p.Drops q) : ancestors p = p :: ancestors q := by
  have hparent := parent?_eq_some_iff.2 h
  rw [ancestors]
  split
  · next q' hq' =>
    cases hparent.symm.trans hq'
    rfl
  · next hnone => cases hparent.symm.trans hnone

/-- A path without a component to drop is its only ancestor. -/
lemma ancestors_of_top {p : Path} (h : ∀ q, ¬ p.Drops q) : ancestors p = [p] := by
  have hparent := parent?_eq_none_iff.2 h
  rw [ancestors]
  split
  · next q' hq' => cases hparent.symm.trans hq'
  · rfl

/-- **Induction upwards.** What holds of a path without a component to drop, and of a path if it
holds of what is left without the last one, holds of every path. -/
@[elab_as_elim]
lemma drops_induction {motive : Path → Prop} (top : ∀ p, (∀ q, ¬ p.Drops q) → motive p)
    (drops : ∀ p q, p.Drops q → motive q → motive p) (p : Path) : motive p := by
  induction hn : p.length using Nat.strongRecOn generalizing p with
  | _ n ih =>
    by_cases hp : ∃ q, p.Drops q
    · obtain ⟨q, hq⟩ := hp
      exact drops p q hq (ih q.length (hn ▸ hq.length_lt) q rfl)
    · exact top p fun q hq => hp ⟨q, hq⟩

/-- **The ancestors of a path** are what is left when components are dropped from it. -/
lemma mem_ancestors_iff {p a : Path} : a ∈ ancestors p ↔ p.Upwards a := by
  induction p using drops_induction with
  | top p hp =>
      rw [ancestors_of_top hp, List.mem_singleton]
      constructor
      · rintro rfl
        exact .refl
      · intro h
        rcases Relation.ReflTransGen.cases_head h with rfl | ⟨q, hq, -⟩
        · rfl
        · exact absurd hq (hp q)
  | drops p q hq ih =>
      rw [ancestors_of_drops hq, List.mem_cons, ih]
      constructor
      · rintro (rfl | h)
        · exact .refl
        · exact .head hq h
      · intro h
        rcases Relation.ReflTransGen.cases_head h with rfl | ⟨q', hq', h⟩
        · exact Or.inl rfl
        · rw [hq.unique hq']
          exact Or.inr h

lemma Upwards.length_le {p a : Path} (h : p.Upwards a) : a.length ≤ p.length := by
  induction h with
  | refl => exact Nat.le_refl _
  | tail _ hq ih => exact Nat.le_trans (Nat.le_of_lt hq.length_lt) ih

/-- The ancestors of a path get shorter. -/
lemma pairwise_ancestors (p : Path) :
    (ancestors p).Pairwise fun a b => b.length < a.length := by
  induction p using drops_induction with
  | top p hp =>
      rw [ancestors_of_top hp]
      exact List.pairwise_singleton _ _
  | drops p q hq ih =>
      rw [ancestors_of_drops hq]
      refine .cons (fun a ha => ?_) ih
      exact Nat.lt_of_le_of_lt (mem_ancestors_iff.1 ha).length_le hq.length_lt

end Path

/-- In a list that goes down, the first member that a test admits is the greatest one. -/
lemma find?_eq_some_iff_of_pairwise {α : Type} {size : α → ℕ} {l : List α}
    (hl : l.Pairwise fun a b => size b < size a) {test : α → Bool} {a : α} :
    l.find? test = some a ↔
      a ∈ l ∧ test a = true ∧ ∀ b ∈ l, test b = true → size b ≤ size a := by
  induction l with
  | nil => simp
  | cons c l ih =>
      rw [List.pairwise_cons] at hl
      by_cases hc : test c = true
      -- the list goes down, so a first member that is admitted is greater than all later ones
      · rw [List.find?_cons_of_pos hc, Option.some.injEq]
        constructor
        · rintro rfl
          refine ⟨List.mem_cons_self, hc, fun b hb _ => ?_⟩
          rcases List.mem_cons.1 hb with rfl | hb
          · exact Nat.le_refl _
          · exact Nat.le_of_lt (hl.1 b hb)
        · rintro ⟨ha, -, hmost⟩
          rcases List.mem_cons.1 ha with rfl | ha
          · rfl
          · have hle := hmost c List.mem_cons_self hc
            exact absurd (hl.1 a ha) (Nat.not_lt.2 hle)
      · rw [List.find?_cons_of_neg hc, ih hl.2]
        simp only [List.mem_cons]
        constructor
        · rintro ⟨ha, htest, hmost⟩
          refine ⟨Or.inr ha, htest, ?_⟩
          rintro b (rfl | hb) hb'
          · exact absurd hb' hc
          · exact hmost b hb hb'
        · rintro ⟨rfl | ha, htest, hmost⟩
          · exact absurd htest hc
          · exact ⟨ha, htest, fun b hb => hmost b (Or.inr hb)⟩

namespace Config

variable {fs : FileSystem} {cwd : Location} {start a : Path}

/-! ### The search -/

/-- **Something stands in `a` under the name of a configuration file**, be it a file or a
directory. -/
def Present (fs : FileSystem) (cwd : Location) (a : Path) : Prop :=
  ∃ node, fs.find cwd (a.join fileName) = .ok node

/-- Looking for the file tells whether something is present. -/
lemma isThere_iff_present : fs.isThere cwd (a.join fileName) = true ↔ Present fs cwd a := by
  rw [FileSystem.isThere, Present]
  cases fs.find cwd (a.join fileName) <;> simp [Except.isOk, Except.toBool]

/-- **The search for a configuration file**, turn by turn: it ends where something is present, and
where no component is left to drop; otherwise it goes on without the last component. -/
inductive Searches (fs : FileSystem) (cwd : Location) : Path → Option Path → Prop
  | found {a : Path} : Present fs cwd a → Searches fs cwd a (some (a.join fileName))
  | top {a : Path} : ¬ Present fs cwd a → (∀ b, ¬ a.Drops b) → Searches fs cwd a none
  | up {a b : Path} {answer : Option Path} : ¬ Present fs cwd a → a.Drops b →
      Searches fs cwd b answer → Searches fs cwd a answer

/-- A file in the start itself is discovered. -/
lemma discover_of_present (h : Present fs cwd start) :
    discover fs cwd start = some (start.join fileName) := by
  have hthere := isThere_iff_present.2 h
  obtain ⟨above, habove⟩ : ∃ above, start.ancestors = start :: above := by
    by_cases hdrops : ∃ q, start.Drops q
    · obtain ⟨q, hq⟩ := hdrops
      exact ⟨_, Path.ancestors_of_drops hq⟩
    · exact ⟨_, Path.ancestors_of_top (not_exists.1 hdrops)⟩
  rw [discover, candidates, habove, List.map_cons, List.find?_cons_of_pos hthere]

/-- Without a file there, discovery goes on in the parent. -/
lemma discover_of_drops {q : Path} (h : ¬ Present fs cwd start) (hq : start.Drops q) :
    discover fs cwd start = discover fs cwd q := by
  have hnot : ¬ fs.isThere cwd (start.join fileName) = true := isThere_iff_present.not.2 h
  rw [discover, candidates, Path.ancestors_of_drops hq, List.map_cons,
    List.find?_cons_of_neg hnot]
  rfl

/-- Without a file and without a parent, nothing is discovered. -/
lemma discover_of_top (h : ¬ Present fs cwd start) (htop : ∀ q, ¬ start.Drops q) :
    discover fs cwd start = none := by
  have hnot : ¬ fs.isThere cwd (start.join fileName) = true := isThere_iff_present.not.2 h
  rw [discover, candidates, Path.ancestors_of_top htop, List.map_singleton,
    List.find?_cons_of_neg hnot]
  rfl

/-- The search ends with nothing but what is discovered. -/
lemma Searches.eq_discover {answer : Option Path} (h : Searches fs cwd start answer) :
    discover fs cwd start = answer := by
  induction h with
  | found hpresent => exact discover_of_present hpresent
  | top hnone htop => exact discover_of_top hnone htop
  | up hnone hdrops _ ih => exact (discover_of_drops hnone hdrops).trans ih

/-- The search comes to an end: every turn that goes on does so with a shorter path. -/
lemma searches_discover (fs : FileSystem) (cwd : Location) (start : Path) :
    Searches fs cwd start (discover fs cwd start) := by
  induction start using Path.drops_induction with
  | top p htop =>
      by_cases hp : Present fs cwd p
      · rw [discover_of_present hp]
        exact .found hp
      · rw [discover_of_top hp htop]
        exact .top hp htop
  | drops p q hq ih =>
      by_cases hp : Present fs cwd p
      · rw [discover_of_present hp]
        exact .found hp
      · rw [discover_of_drops hp hq]
        exact .up hp hq ih

/-- **The search comes to an end with what is discovered.** -/
theorem searches_iff {answer : Option Path} :
    Searches fs cwd start answer ↔ discover fs cwd start = answer := by
  constructor
  · exact Searches.eq_discover
  · rintro rfl
    exact searches_discover fs cwd start

/-! ### The nearest file -/

/-- Discovery looks for the first ancestor that has a file. -/
lemma discover_eq (fs : FileSystem) (cwd : Location) (start : Path) :
    discover fs cwd start =
      (start.ancestors.find? fun a => fs.isThere cwd (a.join fileName)).map
        (Path.join · fileName) := by
  rw [discover, candidates, List.find?_map]
  rfl

/-- What is discovered is the file in the longest ancestor that has one. -/
lemma discover_eq_some_iff {found : Path} :
    discover fs cwd start = some found ↔
      ∃ a : Path, start.Upwards a ∧ Present fs cwd a ∧ found = a.join fileName ∧
        ∀ b : Path, start.Upwards b → Present fs cwd b → b.length ≤ a.length := by
  rw [discover_eq, Option.map_eq_some_iff]
  refine exists_congr fun a => ?_
  rw [find?_eq_some_iff_of_pairwise start.pairwise_ancestors]
  simp only [Path.mem_ancestors_iff, isThere_iff_present]
  constructor
  · rintro ⟨⟨habove, hpresent, hmost⟩, rfl⟩
    exact ⟨habove, hpresent, rfl, hmost⟩
  · rintro ⟨habove, hpresent, rfl, hmost⟩
    exact ⟨⟨habove, hpresent, hmost⟩, rfl⟩

/-- Nothing is discovered exactly if no ancestor has a file. -/
lemma discover_eq_none_iff :
    discover fs cwd start = none ↔ ∀ a : Path, start.Upwards a → ¬ Present fs cwd a := by
  rw [discover_eq, Option.map_eq_none_iff, List.find?_eq_none]
  simp only [Path.mem_ancestors_iff, isThere_iff_present]

/-- **Discovery finds the nearest configuration.** Looking in a path, then in what is left without
its last component, and so on comes to an end with what is discovered. That is the file in the
longest of these paths that has one, be it a file or a directory, and nothing exactly if none of
them has one. -/
theorem discover_nearest (fs : FileSystem) (cwd : Location) (start : Path) :
    (∀ answer, Searches fs cwd start answer ↔ discover fs cwd start = answer) ∧
    (∀ found, discover fs cwd start = some found ↔
      ∃ a : Path, start.Upwards a ∧ Present fs cwd a ∧ found = a.join fileName ∧
        ∀ b : Path, start.Upwards b → Present fs cwd b → b.length ≤ a.length) ∧
    (discover fs cwd start = none ↔ ∀ a : Path, start.Upwards a → ¬ Present fs cwd a) :=
  ⟨fun _ => searches_iff, fun _ => discover_eq_some_iff, discover_eq_none_iff⟩

/-- The `..` is dropped like any name, and a directory that has the name of the file is found before
a file above it. -/
example :
    discover
      ⟨[(["x".toList], .directory), (["x".toList, fileName], .directory),
        ([fileName], .text [])]⟩ [] "/x/y/../z".toList =
      some "/x/bladefn.toml".toList := by
  decide +kernel

end Config

end TemplateFunctions
