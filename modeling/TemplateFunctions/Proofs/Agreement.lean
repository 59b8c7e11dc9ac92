import TemplateFunctions.Proofs.Effect
import TemplateFunctions.Proofs.Fragments

/-!
Two compilations of one template, side by side.

A compilation asks its table only for the identifiers that stand right behind an `@`. If two
sessions agree on those, their compilations take the same steps, meet the same sites and enter the
same calls; what is written differs, if the emitters do, in the fragments of the function directives
alone.

* `names`: the identifiers right behind an `@` (`mem_names_iff`).
* `Session.AgreeOn`: two tables that give the same for certain names.
* `Takes.alike`, `Runs.alike`: **a step and a run of the one session are a step and a run of the
  other**, and the sessions go on to agree.
* `Meets.alike`, `Fails.alike`: so are a site that is met and a site that fails.
* `compile_alike`: the two compilations succeed with the same parts or fail with the same fault.
* `compile_eq_of_agree`: **a directive that the template does not name cannot influence it.**
-/

namespace TemplateFunctions

/-! ### The names of a template -/

namespace Template

/-- **The names of a template**: the longest identifiers that stand right behind an `@`. -/
def names : Text → List Text
  | [] => []
  | c :: t =>
    (if c = '@' then (Identifier.split? t).toList.map Prod.fst else []) ++ names t

/-- The name at the start of a text. -/
lemma mem_split?_names_iff {t name : Text} :
    name ∈ (Identifier.split? t).toList.map Prod.fst ↔
      ∃ rest, t = name ++ rest ∧ Identifier.Leads name rest := by
  rw [List.mem_map]
  constructor
  · rintro ⟨⟨name', rest⟩, hmem, rfl⟩
    obtain ⟨hleads, ht⟩ := Identifier.split?_eq_some_iff.1 (Option.mem_toList.1 hmem)
    exact ⟨rest, ht, hleads⟩
  · rintro ⟨rest, ht, hleads⟩
    exact ⟨(name, rest), Option.mem_toList.2 (Identifier.split?_eq_some_iff.2 ⟨hleads, ht⟩), rfl⟩

/-- **A name of a template stands right behind an `@`**, and what follows does not go on with it. -/
lemma mem_names_iff {t name : Text} :
    name ∈ names t ↔ ∃ u rest, t = u ++ '@' :: (name ++ rest) ∧ Identifier.Leads name rest := by
  induction t with
  | nil => simp [names]
  | cons c t ih =>
      rw [names, List.mem_append, ih]
      constructor
      · rintro (hfirst | ⟨u, rest, rfl, hleads⟩)
        · split at hfirst
          · next hc =>
            obtain ⟨rest, rfl, hleads⟩ := mem_split?_names_iff.1 hfirst
            exact ⟨[], rest, by rw [hc]; rfl, hleads⟩
          · cases hfirst
        · exact ⟨c :: u, rest, rfl, hleads⟩
      · rintro ⟨u, rest, ht, hleads⟩
        cases u with
        | nil =>
            rw [List.nil_append, List.cons.injEq] at ht
            rw [if_pos ht.1]
            exact Or.inl (mem_split?_names_iff.2 ⟨rest, ht.2, hleads⟩)
        | cons d u =>
            rw [List.cons_append, List.cons.injEq] at ht
            exact Or.inr ⟨u, rest, ht.2, hleads⟩

/-- A name of a text is a name of the text with more in front of it. -/
lemma mem_names_append (u : Text) {v name : Text} (h : name ∈ names v) : name ∈ names (u ++ v) := by
  obtain ⟨w, rest, rfl, hleads⟩ := mem_names_iff.1 h
  exact mem_names_iff.2 ⟨u ++ w, rest, by rw [List.append_assoc], hleads⟩

/-- The name of a site that stands in front of a text is a name of both. -/
lemma Site.Stands.name_mem_names {site : Site} {s : Session} {before rest : Text}
    (h : site.Stands s before rest) : site.name ∈ names (site.source ++ rest) := by
  refine mem_names_iff.2 ⟨[], site.tail ++ rest, ?_, h.leads⟩
  rw [Site.source_eq, List.cons_append, List.append_assoc]
  rfl

/-- The name of a site that a compilation meets is a name of the template. -/
lemma Meets.name_mem_names {s mid : Session} {t before rest : Text} {site : Site}
    (h : Meets s t mid before site rest) : site.name ∈ names t := by
  rw [h.text]
  exact mem_names_append _ h.stands.name_mem_names

end Template

/-! ### Sessions that agree -/

/-- **Two sessions agree** on certain names: their tables give the same for each of them. -/
def Session.AgreeOn (names : Text → Prop) (s s' : Session) : Prop :=
  ∀ name, names name → s.table.get? name = s'.table.get? name

variable {N : Text → Prop} {s s' : Session}

lemma Session.AgreeOn.symm (h : s.AgreeOn N s') : s'.AgreeOn N s :=
  fun name hname => (h name hname).symm

lemma Session.AgreeOn.contains_eq (h : s.AgreeOn N s') {name : Text} (hname : N name) :
    s.table.contains name = s'.table.contains name := by
  rw [Table.contains, Table.contains, h name hname]

/-- One entry in both sessions keeps them in agreement. -/
lemma Session.AgreeOn.register (h : s.AgreeOn N s') (key : Text) (d : Directive) :
    (s.register key d).AgreeOn N (s'.register key d) := by
  intro name hname
  simp only [Session.register, Table.get?_insert, h name hname]

/-- One directive keeps two sessions in agreement. -/
lemma Session.AgreeOn.perform_snd (h : s.AgreeOn N s') (d : Directive) (expression : Text) :
    (s.perform d expression).2.AgreeOn N (s'.perform d expression).2 := by
  cases d with
  | declare =>
      simp only [Session.perform]
      split
      · exact h.register _ _
      · exact h
  | _ => exact h

/-- A directive that succeeds in one session succeeds in every other one. It writes the same, or the
two emitters write one fragment. -/
lemma Session.perform_alike {after : Session} {d : Directive} {expression text : Text}
    (h : s.perform d expression = (.ok text, after)) (s' : Session) :
    ∃ text', s'.perform d expression = (.ok text', (s'.perform d expression).2) ∧
      (text' = text ∨ ∃ fragment, d.fragment? expression = some fragment ∧
        text = fragment.text s.emitter ∧ text' = fragment.text s'.emitter) := by
  cases hf : d.fragment? expression with
  | none =>
      obtain ⟨h', -⟩ := Session.perform_of_fragment?_eq_none hf h s'
      exact ⟨text, by rw [h'], Or.inl rfl⟩
  | some fragment =>
      have hs := Session.perform_fst_of_fragment? hf s
      have hs' := Session.perform_fst_of_fragment? hf s'
      rw [h, Except.ok.injEq] at hs
      exact ⟨_, by rw [← hs'], Or.inr ⟨fragment, rfl, hs, rfl⟩⟩

namespace Template

/-! ### Steps -/

/-- A site stands in both sessions. -/
lemma Site.Stands.alike {site : Site} {before rest : Text} (h : site.Stands s before rest)
    (hagree : s.AgreeOn N s') (hname : N site.name) : site.Stands s' before rest :=
  ⟨h.apart, h.leads, (hagree.contains_eq hname).symm.trans h.known, h.argued⟩

/-- A fragment among parts has its place: the site of the part stands there, and its directive gives
the fragment. -/
def Part.Placed (s : Session) (before rest : Text) : Part → Prop
  | literal _ _ => True
  | fragment site f => site.Stands s before rest ∧
      ∃ d, s.table.get? site.name = some d ∧ d.fragment? site.expression = some f

/-- What one session passes over the other one passes over. -/
lemma Passes.alike {before u rest : Text} (h : Passes s before u rest) (hagree : s.AgreeOn N s')
    (hnames : ∀ name ∈ names (u ++ rest), N name) : Passes s' before u rest := by
  cases h with
  | char hc => exact .char hc
  | glued hb => exact .glued hb
  | pair hb habsent => exact .pair hb habsent
  | lone hb habsent hat => exact .lone hb habsent hat
  | @unknown name _ hb hname hunknown =>
      have hN : N name := hnames name (mem_names_iff.2 ⟨[], rest, rfl, hname⟩)
      exact .unknown hb hname ((hagree.contains_eq hN).symm.trans hunknown)

/-- **A step of one session is a step of the other**, over one part, and the sessions go on to
agree. -/
lemma Takes.alike {mid : Session} {before u r rest : Text} (h : Takes s before u r mid rest)
    (hagree : s.AgreeOn N s') (hnames : ∀ name ∈ names (u ++ rest), N name) :
    ∃ (p : Part) (mid' : Session), p.source = u ∧ p.output s.emitter = r ∧
      Takes s' before u (p.output s'.emitter) mid' rest ∧ mid.AgreeOn N mid' ∧
      p.Placed s before rest := by
  cases h with
  | pass h =>
      exact ⟨.literal u u, s', rfl, rfl, .pass (h.alike hagree hnames), hagree, trivial⟩
  | replace h =>
      cases h with
      | @escape name _ hb hname =>
          exact ⟨.literal ('@' :: '@' :: name) ('@' :: name), s', rfl, rfl,
            .replace (.escape hb hname), hagree, trivial⟩
      | @site site _ _ _ hstands hdispatch =>
          have hN : N site.name := hnames _ hstands.name_mem_names
          have hstands' := hstands.alike hagree hN
          obtain ⟨d, hd, hperform⟩ := Session.dispatch_eq_some_iff.1 hdispatch
          have hd' : s'.table.get? site.name = some d := (hagree _ hN).symm.trans hd
          have hafter := hagree.perform_snd d site.expression
          rw [hperform] at hafter
          obtain ⟨r', hperform', hr⟩ := Session.perform_alike hperform s'
          have htakes' : Takes s' before site.source r' (s'.perform d site.expression).2 rest :=
            .replace (.site hstands' (Session.dispatch_eq_some_iff.2 ⟨d, hd', hperform'⟩))
          -- a custom directive writes the same in both sessions, any other one a fragment
          rcases hr with rfl | ⟨f, hf, rfl, rfl⟩
          · exact ⟨.literal site.source r', _, rfl, rfl, htakes', hafter, trivial⟩
          · exact ⟨.fragment site f, _, rfl, rfl, htakes', hafter, hstands, d, hd, hf⟩

/-- A site that fails in one session fails in the other. -/
lemma Fails.alike {before rest : Text} {site : Site} {cause : Declaration.Unnamed}
    (h : Fails s before site rest cause) (hagree : s.AgreeOn N s') (hname : N site.name) :
    Fails s' before site rest cause := by
  obtain ⟨hd, hread, -⟩ := Session.dispatch_eq_error_iff.1 h.refused
  exact ⟨h.stands.alike hagree hname,
    Session.dispatch_eq_error_iff.2 ⟨(hagree _ hname).symm.trans hd, hread, rfl⟩⟩

/-! ### Runs -/

/-- The fragments among the parts of a run have their places in it. -/
def Placed (s : Session) (before : Text) (ps : List Part) (rest : Text) : Prop :=
  ∀ qs site f rs, ps = qs ++ .fragment site f :: rs → ∃ mid w,
    Runs s before (qs.flatMap Part.source) w mid
      (site.source ++ (rs.flatMap Part.source ++ rest)) ∧
    Part.Placed mid (before ++ qs.flatMap Part.source) (rs.flatMap Part.source ++ rest)
      (.fragment site f)

/-- One more part in front. -/
lemma Placed.cons {mid : Session} {before r rest : Text} {p : Part} {ps : List Part}
    (htakes : Takes s before p.source r mid (ps.flatMap Part.source ++ rest))
    (hp : p.Placed s before (ps.flatMap Part.source ++ rest))
    (h : Placed mid (before ++ p.source) ps rest) : Placed s before (p :: ps) rest := by
  intro qs site f rs hsplit
  cases qs with
  | nil =>
      rw [List.nil_append, List.cons.injEq] at hsplit
      obtain ⟨rfl, rfl⟩ := hsplit
      exact ⟨s, [], .nil, by rwa [List.flatMap_nil, List.append_nil]⟩
  | cons q qs =>
      rw [List.cons_append, List.cons.injEq] at hsplit
      obtain ⟨rfl, rfl⟩ := hsplit
      obtain ⟨here, w, hrun, hplaced⟩ := h qs site f rs rfl
      have htext : (qs ++ .fragment site f :: rs).flatMap Part.source ++ rest
          = qs.flatMap Part.source ++ (site.source ++ (rs.flatMap Part.source ++ rest)) := by
        simp [Part.source]
      rw [htext] at htakes
      refine ⟨here, r ++ w, .cons htakes hrun, ?_⟩
      rwa [List.flatMap_cons, ← List.append_assoc]

/-- **A run of one session is a run of the other**, over the same parts, and the sessions go on to
agree. -/
lemma Runs.alike {mid : Session} {before u w rest : Text} (h : Runs s before u w mid rest)
    (hagree : s.AgreeOn N s') (hnames : ∀ name ∈ names (u ++ rest), N name) :
    ∃ (ps : List Part) (mid' : Session), ps.flatMap Part.source = u ∧
      ps.flatMap (Part.output s.emitter) = w ∧
      Runs s' before u (ps.flatMap (Part.output s'.emitter)) mid' rest ∧ mid.AgreeOn N mid' ∧
      Placed s before ps rest := by
  induction h generalizing s' with
  | nil =>
      refine ⟨[], s', rfl, rfl, .nil, hagree, ?_⟩
      intro qs site f rs hsplit
      exact absurd hsplit.symm (by simp)
  | @cons s mid after before u v r w rest htakes _ ih =>
      rw [List.append_assoc] at hnames
      obtain ⟨p, mid', rfl, rfl, htakes', hmid, hp⟩ := htakes.alike hagree hnames
      obtain ⟨ps, after', rfl, rfl, hrun', hafter, hps⟩ :=
        ih hmid fun name hname => hnames name (mem_names_append _ hname)
      -- no step changes the emitter, so that the later parts are written with the first one, too
      have hemitter := (Runs.single htakes).emitter_eq
      have hemitter' := (Runs.single htakes').emitter_eq
      refine ⟨p :: ps, after', rfl, ?_, ?_, hafter, hps.cons htakes hp⟩
      · rw [List.flatMap_cons, hemitter]
      · rw [hemitter'] at hrun'
        exact .cons htakes' hrun'

/-- **A site that one compilation meets the other meets**, and the sessions there agree. -/
lemma Meets.alike {mid : Session} {t before rest : Text} {site : Site}
    (h : Meets s t mid before site rest) (hagree : s.AgreeOn N s')
    (hnames : ∀ name ∈ names t, N name) :
    ∃ mid', Meets s' t mid' before site rest ∧ mid.AgreeOn N mid' := by
  obtain ⟨w, hrun⟩ := h.run
  have hname : N site.name := hnames _ h.name_mem_names
  rw [h.text] at hnames
  obtain ⟨ps, mid', -, -, hrun', hmid, -⟩ := hrun.alike hagree hnames
  exact ⟨mid', ⟨h.text, ⟨_, hrun'⟩, h.stands.alike hmid hname⟩, hmid⟩

/-! ### Compilations -/

/-- **Two compilations side by side**: they succeed with the same parts, or they fail with the same
fault, and the sessions agree afterwards. -/
lemma compile_alike {t : Text} (hagree : s.AgreeOn N s') (hnames : ∀ name ∈ names t, N name) :
    (∃ (ps : List Part) (after after' : Session),
      s.compile t = (.ok (ps.flatMap (Part.output s.emitter)), after) ∧
      s'.compile t = (.ok (ps.flatMap (Part.output s'.emitter)), after') ∧
      after.AgreeOn N after' ∧ ps.flatMap Part.source = t ∧ Placed s [] ps []) ∨
    ∃ fault after after', s.compile t = (.error fault, after) ∧
      s'.compile t = (.error fault, after') ∧ after.AgreeOn N after' := by
  rcases runs_or_fails s [] t with
    ⟨w, after, hrun⟩ | ⟨u, w, after, site, rest, cause, rfl, hrun, hf⟩
  · obtain ⟨ps, after', hsource, rfl, hrun', hafter, hplaced⟩ :=
      hrun.alike hagree (by rwa [List.append_nil])
    exact Or.inl ⟨ps, after, after', compile_of_runs hrun, compile_of_runs hrun', hafter, hsource,
      hplaced⟩
  · obtain ⟨ps, after', -, -, hrun', hafter, -⟩ := hrun.alike hagree hnames
    have hname : N site.name := hnames _ (mem_names_append _ hf.stands.name_mem_names)
    exact Or.inr ⟨_, after, after', compile_of_fails hrun hf,
      compile_of_fails hrun' (hf.alike hafter hname), hafter⟩

/-- What one compilation declares the other declares. -/
lemma Declares.alike {t before name : Text} (h : Declares s t before name) (hagree : s.AgreeOn N s')
    (hnames : ∀ name ∈ names t, N name) : Declares s' t before name := by
  obtain ⟨mid, site, rest, params, hmeets, hd, hread⟩ := h
  have hname : N site.name := hnames _ hmeets.name_mem_names
  obtain ⟨mid', hmeets', hmid⟩ := hmeets.alike hagree hnames
  exact ⟨mid', site, rest, params, hmeets', (hmid _ hname).symm.trans hd, hread⟩

/-- Two compilations side by side declare the same names. -/
lemma declared_iff_of_agreeOn {t : Text} (hagree : s.AgreeOn N s')
    (hnames : ∀ name ∈ names t, N name) (name : Text) : Declared s t name ↔ Declared s' t name :=
  ⟨fun ⟨before, h⟩ => ⟨before, h.alike hagree hnames⟩,
    fun ⟨before, h⟩ => ⟨before, h.alike hagree.symm hnames⟩⟩

/-- **What a template does not name cannot influence it.** If two sessions have one emitter and give
the same directive, or none, for every name of the template, the template compiles to the same text
in both or fails in both with the same fault, and it declares the same functions. Afterwards the
tables differ just where they differed, declared names apart; a name that is not declared keeps in
each table the directive that it had there. -/
theorem compile_eq_of_agree (s s' : Session) (t : Text) (hemitter : s.emitter = s'.emitter)
    (hagree : ∀ name ∈ names t, s.table.get? name = s'.table.get? name) :
    (s.compile t).1 = (s'.compile t).1 ∧
      (s.compile t).2.emitter = (s'.compile t).2.emitter ∧
      (∀ name, Declared s t name ↔ Declared s' t name) ∧
      (∀ key, (s.compile t).2.table.get? key ≠ (s'.compile t).2.table.get? key ↔
        s.table.get? key ≠ s'.table.get? key ∧ ¬ Declared s t key) ∧
      ∀ key, ¬ Declared s t key → (s.compile t).2.table.get? key = s.table.get? key ∧
        (s'.compile t).2.table.get? key = s'.table.get? key := by
  have hagrees : s.AgreeOn (· ∈ names t) s' := hagree
  have hdeclared := declared_iff_of_agreeOn hagrees fun _ h => h
  obtain ⟨hentered, hs⟩ := compile_entered s t
  obtain ⟨hentered', hs'⟩ := compile_entered s' t
  have hkept (key : Text) (hkey : ¬ Declared s t key) :
      (s.compile t).2.table.get? key = s.table.get? key ∧
        (s'.compile t).2.table.get? key = s'.table.get? key :=
    ⟨hentered.kept key hkey, hentered'.kept key (mt (hdeclared key).2 hkey)⟩
  refine ⟨?_, by rw [hs, hs', hemitter], hdeclared, fun key => ?_, hkept⟩
  · rcases compile_alike hagrees fun _ h => h with
      ⟨ps, after, after', h, h', -, -, -⟩ | ⟨fault, after, after', h, h', -⟩
    · rw [h, h', hemitter]
    · rw [h, h']
  · by_cases hkey : Declared s t key
    · have hsame : (s.compile t).2.table.get? key = (s'.compile t).2.table.get? key := by
        rw [hentered.entered key hkey, hentered'.entered key ((hdeclared key).1 hkey)]
      simp [hkey, hsame]
    · obtain ⟨h, h'⟩ := hkept key hkey
      rw [h, h']
      simp [hkey]

/-- A custom directive that the template does not name may be there or not, although the template
declares a function, calls it and names something unknown. -/
theorem compile_beside_custom :
    let s := Session.start (.ofTarget .php none) .standard
    let s' := s.register "upper".toList (.custom 0 fun t => t.map Char.toUpper)
    let t := "@function(f($a))@f(1) @other".toList
    s.emitter = s'.emitter ∧ (∀ name ∈ names t, s.table.get? name = s'.table.get? name) ∧
      (s.compile t).1 = (s'.compile t).1 ∧ ∀ name, Declared s t name ↔ Declared s' t name := by
  intro s s' t
  have hunnamed : "upper".toList ∉ names t := by decide
  have hagree : ∀ name ∈ names t, s.table.get? name = s'.table.get? name := by
    intro name hname
    exact (Table.get?_insert_of_ne _ _ (ne_of_mem_of_not_mem hname hunnamed)).symm
  obtain ⟨hsame, -, hdeclared, -⟩ := compile_eq_of_agree s s' t rfl hagree
  exact ⟨rfl, hagree, hsame, hdeclared⟩

end Template

end TemplateFunctions
