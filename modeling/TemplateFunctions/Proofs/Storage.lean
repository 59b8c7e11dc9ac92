import Mathlib.Tactic.Common
import TemplateFunctions.FileSystem

/-!
Reading and writing the files of a tree.

A path names a place for a file when its last part is a name, and all parts in front of it lead
through directories. No directory stands at such a place, so that a file put there is on the way to
nowhere, and every path that led through directories still does.

* `exists_of_placeOf`: what it means that a path names a place.
* `enterAll_put`: **a file in a place without a directory leaves all ways through directories
  open.**
* `node?_of_write`: **writing changes the one place that the path names.**
* `read_of_write`: **what is written is read back under the same path.**
-/

namespace TemplateFunctions

lemma bind_eq_ok_iff {ε α β : Type} {x : Except ε α} {f : α → Except ε β} {b : β} :
    (x >>= f) = .ok b ↔ ∃ a, x = .ok a ∧ f a = .ok b := by
  cases x with
  | error e => simp [bind, Except.bind]
  | ok a => simp [bind, Except.bind]

namespace FileSystem

variable {fs after : FileSystem} {cwd dir next place : Location} {p : Path} {part : Text}
  {parts : List Text} {content : Text}

/-! ### Following a path -/

/-- A child is what stands at its place; its name is not too long. -/
lemma child?_eq_ok_iff {found : Option Node} :
    fs.child? dir part = .ok found ↔
      Text.utf8Size part ≤ maxName ∧ found = fs.node? (dir ++ [part]) := by
  rw [child?]
  split
  · next hlong => simp [Nat.not_le.2 hlong]
  · next hlong => simp [Nat.not_lt.1 hlong, eq_comm]

/-- **A part leads to a directory**: to one above, or to the child with its name. -/
lemma enter_eq_ok_iff (hdots : isDots part = false) :
    fs.enter dir part = .ok next ↔
      fs.child? dir part = .ok (some .directory) ∧ next = dir ++ [part] := by
  rw [isDots, Bool.or_eq_false_iff, decide_eq_false_iff_not] at hdots
  rw [enter, if_neg (by simp [hdots.1]), if_neg hdots.2]
  split
  · next failure hchild => simp [hchild]
  · next hchild => simp [hchild]
  · next hchild => simp [hchild, eq_comm]
  · next node hother hchild =>
    have hne : node ≠ .directory := hother
    simp [hchild, hne]

/-- The directory that dots lead to is the same in every tree. -/
lemma enter_of_isDots (hdots : isDots part = true) (fs fs' : FileSystem) (dir : Location) :
    fs'.enter dir part = fs.enter dir part := by
  rw [isDots, Bool.or_eq_true, decide_eq_true_eq] at hdots
  rw [enter, enter]
  split
  · rfl
  · next hidle =>
    rw [if_pos (hdots.resolve_left hidle), if_pos (hdots.resolve_left hidle)]

/-- A part that leads to a directory still does with a file in a place without a directory. -/
lemma enter_put (hplace : place ≠ []) (hfree : fs.node? place ≠ some .directory) (node : Node)
    (h : fs.enter dir part = .ok next) : (fs.put place node).enter dir part = .ok next := by
  cases hdots : isDots part with
  | true => rwa [enter_of_isDots hdots fs]
  | false =>
      obtain ⟨hchild, hnext⟩ := (enter_eq_ok_iff hdots).1 h
      obtain ⟨hsize, hnode⟩ := child?_eq_ok_iff.1 hchild
      have hne : dir ++ [part] ≠ place := by
        rintro rfl
        exact hfree hnode.symm
      refine (enter_eq_ok_iff hdots).2 ⟨child?_eq_ok_iff.2 ⟨hsize, ?_⟩, hnext⟩
      rw [node?_put fs _ node hplace, if_neg hne, hnode]

/-- **A file in a place without a directory leaves all ways through directories open.** -/
lemma enterAll_put (hplace : place ≠ []) (hfree : fs.node? place ≠ some .directory) (node : Node)
    (h : fs.enterAll dir parts = .ok next) :
    (fs.put place node).enterAll dir parts = .ok next := by
  induction parts generalizing dir with
  | nil => exact h
  | cons part parts ih =>
      rw [enterAll] at h ⊢
      split at h
      · next mid hmid =>
        rw [enter_put hplace hfree node hmid]
        exact ih h
      · cases h

/-! ### Places for files -/

/-- A path that gets no shorter without the empty parts at its end has none. -/
lemma dropEmpty_eq_self
    (h : ¬ (parts.reverse.dropWhile (· = [])).reverse.length < parts.length) :
    (parts.reverse.dropWhile (· = [])).reverse = parts := by
  have hsuffix : parts.reverse.dropWhile (· = []) <:+ parts.reverse := List.dropWhile_suffix _
  rw [List.length_reverse, Nat.not_lt] at h
  rw [hsuffix.eq_of_length_le (by rwa [List.length_reverse]), List.reverse_reverse]

/-- **A path names a place**: the last part is a name there, in the directory that the parts in
front of it lead to, and no directory stands there. -/
lemma exists_of_placeOf (h : fs.placeOf cwd p = .ok place) :
    ∃ parts dir, checkedParts p = .ok parts ∧
      fs.enterAll (origin cwd p) parts.dropLast = .ok dir ∧
      isDots (parts.getLastD []) = false ∧ Text.utf8Size (parts.getLastD []) ≤ maxName ∧
      place = dir ++ [parts.getLastD []] ∧ fs.node? place ≠ some .directory := by
  rw [placeOf] at h
  obtain ⟨parts, hparts, h⟩ := bind_eq_ok_iff.1 h
  obtain ⟨dir, hdir, h⟩ := bind_eq_ok_iff.1 h
  dsimp only at h
  split at h
  · cases h
  · next hname =>
    rw [not_or] at hname
    -- empty parts at the end have been refused, so that dropping them leaves the parts as they are
    have hnamed := dropEmpty_eq_self hname.1
    rw [hnamed] at hname hdir h
    obtain ⟨found, hchild, h⟩ := bind_eq_ok_iff.1 h
    obtain ⟨hsize, hfound⟩ := child?_eq_ok_iff.1 hchild
    split at h
    · cases h
    · next hfree =>
      cases h
      refine ⟨parts, dir, hparts, hdir, by simpa using hname.2, hsize, rfl, ?_⟩
      rw [← hfound]
      exact hfree

/-- A path that names a place leads to what stands there. -/
lemma find_of_placeOf {node : Node} (h : fs.placeOf cwd p = .ok place) :
    (fs.put place node).find cwd p = .ok node := by
  obtain ⟨parts, dir, hparts, hdir, hname, hsize, rfl, hfree⟩ := exists_of_placeOf h
  have hplace : dir ++ [parts.getLastD []] ≠ [] := by simp
  have hway := enterAll_put hplace hfree node hdir
  refine bind_eq_ok_iff.2 ⟨parts, hparts, bind_eq_ok_iff.2 ⟨dir, hway, ?_⟩⟩
  have hchild : (fs.put (dir ++ [parts.getLastD []]) node).child? dir (parts.getLastD []) =
      .ok (some node) := by
    refine child?_eq_ok_iff.2 ⟨hsize, ?_⟩
    rw [node?_put fs _ node hplace, if_pos rfl]
  simp only [hname, hchild]
  rfl

/-! ### Reading and writing -/

lemma isThere_of_read (h : fs.read cwd p = .ok content) : fs.isThere cwd p = true := by
  obtain ⟨node, hfind, -⟩ := bind_eq_ok_iff.1 h
  rw [isThere, hfind]
  rfl

/-- Writing a text puts it in the place that the path names. -/
lemma write_eq_ok_iff :
    fs.write cwd p content = .ok after ↔
      ∃ place, fs.placeOf cwd p = .ok place ∧ after = fs.put place (.text content) := by
  rw [write, bind_eq_ok_iff]
  refine exists_congr fun place => and_congr_right fun _ => ?_
  simp [pure, Except.pure, eq_comm]

/-- **Writing changes the one place that the path names.** -/
lemma node?_of_write (h : fs.write cwd p content = .ok after) {x : Location}
    (hx : after.node? x ≠ fs.node? x) : fs.placeOf cwd p = .ok x := by
  obtain ⟨place, hplace, rfl⟩ := write_eq_ok_iff.1 h
  obtain ⟨parts, dir, -, -, -, -, hlast, -⟩ := exists_of_placeOf hplace
  have hne : place ≠ [] := by simp [hlast]
  rw [node?_put fs x _ hne] at hx
  split at hx
  · next heq => rw [heq, hplace]
  · exact absurd rfl hx

/-- **What is written is read back** under the same path. -/
lemma read_of_write (h : fs.write cwd p content = .ok after) :
    after.read cwd p = .ok content := by
  obtain ⟨place, hplace, rfl⟩ := write_eq_ok_iff.1 h
  exact bind_eq_ok_iff.2 ⟨.text content, find_of_placeOf hplace, rfl⟩

end FileSystem

end TemplateFunctions
