import TemplateFunctions.Proofs.ByteOrder
import TemplateFunctions.Proofs.Growth

/-!
What holds of a session after any actions.

A session is opened without directives or with the function directives, and then compiles templates,
dispatches single directives, has directives installed and goes from one compiler to another.
Nothing of this does more than enter directives, and a call is entered under the name of its own
function only, which is an identifier.

* `Admitted`: the directives that may be entered under a name.
* `Session.Grows`: a session becomes another one by such entries.
* `grows_compile`, `grows_dispatch`, `grows_install`, `grows_act`: **every action is a growth.**
* `Grows.emitter_eq`, `Grows.size_le`, `Grows.sound`: what a growth keeps.
* `sound_after`: **what holds of the table after any actions.**
-/

namespace TemplateFunctions

/-! ### Growing -/

/-- **A directive is admitted** under a name if it calls no function, or calls the one of that name,
which is an identifier. -/
def Admitted (name : Text) (d : Directive) : Prop :=
  ∀ callee, d = .call callee → callee = name ∧ isIdentifier name = true

lemma admitted_call {name : Text} (h : isIdentifier name = true) : Admitted name (.call name) := by
  rintro callee ⟨⟩
  exact ⟨rfl, h⟩

lemma admitted_role (name : Text) (role : DirectiveNames.Role) : Admitted name role.directive := by
  intro callee hcall
  cases role <;> cases hcall

/-- A table is sound if every name stands for a directive that is admitted under it. -/
def Table.Sound (table : Table) : Prop :=
  ∀ key d, table.get? key = some d → Admitted key d

namespace Session

/-- **A session grows**: admitted directives are entered one after another, and nothing else
happens. -/
inductive Grows (s : Session) : Session → Prop
  /-- The session itself. -/
  | refl : Grows s s
  /-- One more entry. -/
  | entry {mid : Session} {name : Text} {d : Directive} :
      Grows s mid → Admitted name d → Grows s (mid.register name d)

namespace Grows

variable {s mid after : Session}

lemma trans (h : s.Grows mid) (h' : mid.Grows after) : s.Grows after := by
  induction h' with
  | refl => exact h
  | entry _ hd ih => exact ih.entry hd

lemma emitter_eq (h : s.Grows after) : after.emitter = s.emitter := by
  induction h with
  | refl => rfl
  | entry _ _ ih => exact ih

lemma size_le (h : s.Grows after) : s.table.size ≤ after.table.size := by
  induction h with
  | refl => exact Nat.le_refl _
  | @entry mid name d _ _ ih =>
      calc s.table.size ≤ mid.table.size := ih
        _ ≤ (mid.table.insert name d).size := mid.table.size_le_insert name d

/-- **A growth keeps a table sound.** -/
lemma sound (h : s.Grows after) (hs : s.table.Sound) : after.table.Sound := by
  induction h with
  | refl => exact hs
  | @entry mid name d _ hd ih =>
      intro key d' hkey
      rw [register, Table.get?_insert] at hkey
      split at hkey
      · next heq =>
        cases hkey
        rw [heq]
        exact hd
      · exact ih key d' hkey

end Grows

/-! ### Actions -/

/-- What can be done with a session. -/
inductive Action where
  /-- A template is compiled, with success or not. -/
  | compile (template : Text)
  /-- The directive under a name is dispatched. -/
  | dispatch (name expression : Text)
  /-- Directives are installed, under whatever names. -/
  | install (names : DirectiveNames)
  /-- One compiler gives the emitter and the table away, and another one goes on with them. -/
  | handOver

/-- The session after an action. -/
def act (s : Session) : Action → Session
  | .compile template => (s.compile template).2
  | .dispatch name expression => (s.dispatch name expression).2
  | .install names => s.install names
  | .handOver => ⟨s.emitter, s.table⟩

/-- The session after actions, one after another. -/
def after (s : Session) (actions : List Action) : Session :=
  actions.foldl act s

/-- A compilation, whether it succeeds or fails, is a growth. -/
lemma grows_compile (s : Session) (t : Text) : s.Grows (s.compile t).2 := by
  have hentry (mid : Session) (name : Text) (hname : isIdentifier name = true)
      (hmid : s.Grows mid) : s.Grows (mid.register name (.call name)) :=
    hmid.entry (admitted_call hname)
  rcases Template.runs_or_fails s [] t with
    ⟨w, after, hrun⟩ | ⟨u, w, after, site, rest, cause, rfl, hrun, hfails⟩
  · rw [Template.compile_of_runs hrun]
    exact hrun.preserves (P := s.Grows) hentry .refl
  · rw [Template.compile_of_fails hrun hfails]
    exact hrun.preserves (P := s.Grows) hentry .refl

/-- A directive at work is a growth: at most it enters the call of the function that it declares. -/
lemma grows_perform (s : Session) (d : Directive) (expression : Text) :
    s.Grows (s.perform d expression).2 := by
  rcases hresult : s.perform d expression with ⟨unnamed | fragment, after⟩
  · obtain ⟨rfl, -, -⟩ := perform_error hresult
    exact .refl
  · rcases perform_growth hresult with rfl | ⟨-, decl, hread, rfl⟩
    · exact .refl
    · exact Grows.refl.entry (admitted_call (Declaration.isIdentifier_of_read hread))

/-- A dispatch is a growth. -/
lemma grows_dispatch (s : Session) (name expression : Text) :
    s.Grows (s.dispatch name expression).2 := by
  rw [dispatch]
  split
  · exact .refl
  · exact s.grows_perform _ expression

/-- An installation is a growth, under whatever names. -/
lemma grows_install (s : Session) (names : DirectiveNames) : s.Grows (s.install names) := by
  have hall (entries : List (DirectiveNames.Role × Text)) (mid : Session) (hmid : s.Grows mid) :
      s.Grows { mid with table := DirectiveNames.installAll entries mid.table } := by
    induction entries generalizing mid with
    | nil => exact hmid
    | cons e entries ih => exact ih _ (hmid.entry (admitted_role e.2 e.1))
  exact hall names.enabled s .refl

/-- **Every action is a growth.** -/
lemma grows_act (s : Session) (a : Action) : s.Grows (s.act a) := by
  cases a with
  | compile template => exact s.grows_compile template
  | dispatch name expression => exact s.grows_dispatch name expression
  | install names => exact s.grows_install names
  | handOver => exact .refl

/-- Actions one after another are a growth. -/
lemma grows_after (s : Session) (actions : List Action) : s.Grows (s.after actions) := by
  induction actions generalizing s with
  | nil => exact .refl
  | cons a actions ih => exact (s.grows_act a).trans (ih (s.act a))

/-! ### Every history -/

/-- The session that is opened without directives, or with the function directives under certain
names. -/
def opened (e : Emitter) : Option DirectiveNames → Session
  | none => bare e
  | some names => start e names

/-- A session is opened as a growth of the session without directives. -/
lemma grows_opened (e : Emitter) (names : Option DirectiveNames) :
    (bare e).Grows (opened e names) := by
  cases names with
  | none => exact .refl
  | some names => exact (bare e).grows_install names

/-- **What holds of a session after any actions**, however it was opened. A name that stands for the
call of a function is the name of that function, and an identifier. The declared functions are in
strictly increasing order by bytes, and are exactly the names that stand for calls; so each of them
is in the table. The emitter is the first one. And whatever comes next, the table gets no smaller.
-/
theorem sound_after (e : Emitter) (names : Option DirectiveNames) (actions : List Action) :
    let s := (opened e names).after actions
    (∀ key callee, s.table.get? key = some (.call callee) →
        callee = key ∧ isIdentifier key = true) ∧
      s.table.declared.Pairwise (fun x y => Text.bytes x < Text.bytes y) ∧
      (∀ name, name ∈ s.table.declared ↔ ∃ callee, s.table.get? name = some (.call callee)) ∧
      (∀ name ∈ s.table.declared, s.table.contains name = true) ∧
      s.emitter = e ∧
      ∀ a, s.table.size ≤ (s.act a).table.size := by
  intro s
  have hgrows : (bare e).Grows s := (grows_opened e names).trans (grows_after _ actions)
  -- soundness is kept by growing, and there is nothing to show of a table without directives
  have hempty : (bare e).table.Sound := nofun
  have hsound : s.table.Sound := hgrows.sound hempty
  have hown : s.table.OwnNames := fun key callee hkey => (hsound key _ hkey callee rfl).1
  have hlisted (name : Text) :
      name ∈ s.table.declared ↔ ∃ callee, s.table.get? name = some (.call callee) := by
    rw [hown.mem_declared_iff]
    constructor
    · intro hname
      exact ⟨name, hname⟩
    · rintro ⟨callee, hname⟩
      obtain rfl := hown name callee hname
      exact hname
  refine ⟨fun key callee hkey => hsound key _ hkey callee rfl, ?_, hlisted, ?_, hgrows.emitter_eq,
    fun a => (s.grows_act a).size_le⟩
  · exact hown.pairwise_declared.imp Text.bytes_lt_bytes_iff.2
  · intro name hname
    obtain ⟨callee, hcall⟩ := (hlisted name).1 hname
    exact Table.contains_of_get?_eq_some hcall

end Session

end TemplateFunctions
