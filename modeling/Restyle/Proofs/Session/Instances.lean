import Restyle.Proofs.Session.ManagerRules

/-!
# Instances with one definition

The first manager of a base rule renders the rules that were compiled for it, and every later one
renders them refreshed from its own definition. If the definitions are the same, nobody can tell
which of the two managers came first: refreshing the dynamic rules of a definition from that same
definition gives them back, and updates of both managers do the same, whatever happened in between
(`refresh_compile_self`).
-/

namespace Restyle

variable {P C σ : Type}

namespace Session

variable {eval : Evaluator P C σ} {s s' : Session P σ} {name base : String} {m m' : Manager P}
  {d : Definition P}

/-- There is a manager of this name for the base rule, and its provider gives `d` at present. -/
def Offers (s : Session P σ) (name base : String) (d : Definition P) : Prop :=
  ∃ m, s.manager? name = some m ∧ m.base = base ∧ s.definitionOf m = d

/-- An update of an initialised manager sees of it the base rule and the dynamic rules only. -/
lemma update_congr (eval : Evaluator P C σ) (s : Session P σ)
    (hinit : m'.initialised = m.initialised) (hbase : m'.base = m.base)
    (hrules : m'.dynamicRules = m.dynamicRules) (component : Option C) :
    s.update eval m' component = s.update eval m component := by
  have hby : s.renderedBy m' = s.renderedBy m := by
    simp only [renderedBy, hinit, hbase, hrules]
  simp only [update, hby, hbase]

/-- Initialisations of two managers give them the same rules, at whatever time, if both managers
have the same definition and their records were compiled from one. -/
lemma dynamicRules_equipped_eq (hspares : d.SparesHeadings base) (hbase : m.base = base)
    (hbase' : m'.base = base) (hd : s.definitionOf m = d) (hd' : s'.definitionOf m' = d)
    (hcompiled : (s'.acquired m').1.2.compiled = (s.acquired m).1.2.compiled) :
    (s'.equipped m').dynamicRules = (s.equipped m).dynamicRules := by
  subst hbase hd
  cases hempty : (s.acquired m).1.2.compiled.dynamicRules.isEmpty with
  | true =>
    rw [dynamicRules_equipped_of_isEmpty hempty,
      dynamicRules_equipped_of_isEmpty (hcompiled ▸ hempty)]
  | false =>
    have hspares' : (s'.definitionOf m').SparesHeadings m'.base := by
      rw [hd', hbase']
      exact hspares
    rw [dynamicRules_equipped hspares hempty,
      dynamicRules_equipped hspares' (hcompiled ▸ hempty), hcompiled, hd', hbase']

/-- Once an initialisation for a base rule has ended well, every later one does. -/
lemma done_after_initialise (hs : s.store.Ledger) (hm : s.manager? name = some m)
    (hdone : (s.step eval (.initialise name)).1 = .done) {between : List (Command P C)}
    {other : String}
    (hs' : (s.after eval (.initialise name :: between)).store.Ledger)
    (hm' : (s.after eval (.initialise name :: between)).manager? other = some m')
    (hbase : m'.base = m.base) :
    ((s.after eval (.initialise name :: between)).step eval (.initialise other)).1 = .done := by
  obtain ⟨-, -, hstep⟩ | ⟨written, targets, -, hwritten, hstep⟩ := step_initialise_cases eval hs hm
  · rw [hstep] at hdone
    cases hdone
  have hstored : (s.step eval (.initialise name)).2.registry.get? m.base = some written := by
    rw [hstep]
    exact Registry.get?_put_self
  obtain ⟨record, hrecord, hcontinues⟩ := keeps_after eval _ between m.base written hstored
  rw [← after_cons, ← hbase] at hrecord
  -- Only a pending text could make the later initialisation fail.
  obtain ⟨hpending, -, -⟩ | ⟨rewritten, targets', -, -, hstep'⟩ :=
    step_initialise_cases eval hs' hm'
  · rw [acquired_of_get? _ m' hrecord, hcontinues.isPending_eq_false hwritten] at hpending
    cases hpending
  · rw [hstep']

end Session

/-- Let `d` be a definition without plain declarations under headings of keyframes blocks. The
dynamic rules that a later compilation of `d` makes from those of the first are exactly these.
So let two managers of a base rule be initialised at any two times of a run, while the provider of
each gives `d`, and neither of them be made or initialised again. If the first initialisation ends
well, so does the second; and from then on both managers have the same dynamic rules, and an update
of the second one does what an update of the first one would do. -/
theorem refresh_compile_self {d : Definition P} {base : String} (hspares : d.SparesHeadings base) :
    (d.compile base).dynamicRules.refresh d base = (d.compile base).dynamicRules ∧
    ∀ (eval : Evaluator P C σ) (config : Config) (memory : σ) (first second : String)
      (earlier between later : List (Command P C)),
      let before : Session P σ := (Session.fresh config memory).after eval earlier
      let mid := before.after eval (.initialise first :: between)
      let last := mid.after eval (.initialise second :: later)
      before.Offers first base d → mid.Offers second base d →
      (before.step eval (.initialise first)).1 = .done →
      (∀ command ∈ between ++ .initialise second :: later, command.renews first = false) →
      (∀ command ∈ later, command.renews second = false) →
      (mid.step eval (.initialise second)).1 = .done ∧
      ∃ own own', last.manager? first = some own ∧ last.manager? second = some own' ∧
        own'.dynamicRules = own.dynamicRules ∧
        ∀ component, last.update eval own' component = last.update eval own component := by
  refine ⟨refresh_dynamicRules_compile hspares, ?_⟩
  intro eval config memory first second earlier between later before mid last hfirst hsecond hdone
    hkept hkept'
  obtain ⟨m, hm, rfl, hd⟩ := hfirst
  obtain ⟨m', hm', hbase', hd'⟩ := hsecond
  have hledger : before.store.Ledger := Session.ledger_after eval config memory earlier
  have hledger' : mid.store.Ledger := by
    have hmid : mid = (Session.fresh config memory).after eval
        (earlier ++ .initialise first :: between) :=
      (Session.after_append eval _ earlier _).symm
    rw [hmid]
    exact Session.ledger_after eval config memory _
  have hdone' : (mid.step eval (.initialise second)).1 = .done :=
    Session.done_after_initialise hledger hm hdone hledger' hm' hbase'
  -- The first manager stays as it is from its initialisation to the end of the run.
  have hown : last.manager? first = some (before.ready m) := by
    have hlast : last = before.after eval
        (.initialise first :: (between ++ .initialise second :: later)) :=
      (Session.after_append eval before (.initialise first :: between) _).symm
    rw [hlast]
    exact (Session.manager?_after_initialise hledger hm hdone hkept).1
  have hown' : last.manager? second = some (mid.ready m') :=
    (Session.manager?_after_initialise hledger' hm' hdone' hkept').1
  have hcompiled : (mid.acquired m').1.2.compiled = (before.acquired m).1.2.compiled := by
    obtain ⟨-, record, hrecord, hcontinues⟩ := Session.manager?_after_initialise hledger hm hdone
      fun command hcommand => hkept command (List.mem_append_left _ hcommand)
    rw [Session.acquired_of_get? mid m' (hbase' ▸ hrecord)]
    exact hcontinues.compiled
  have hrules : (mid.ready m').dynamicRules = (before.ready m).dynamicRules :=
    Session.dynamicRules_equipped_eq hspares rfl hbase' hd hd' hcompiled
  exact ⟨hdone', _, _, hown, hown', hrules, Session.update_congr eval last rfl hbase' hrules⟩

/-- A definition in which a pair changes its kind and a block is declared in two spellings. -/
def glowing : Definition Nat :=
  ⟨[("color", .computed 0), ("width", .fixed (.text "1px")),
    ("@glow", .nested ⟨[("from", .nested ⟨[("opacity", .fixed (.text "0"))]⟩)]⟩),
    ("=.A", .nested ⟨[("color", .fixed (.text "red")), ("width", .computed 1)]⟩),
    ("@keyframes glow", .nested ⟨[("60", .nested ⟨[("opacity", .computed 2)]⟩)]⟩)]⟩

/-- Two instances of `glowing` are added. -/
def glowingInstances : List (Command Nat Unit) :=
  [.addManager "first" ".A" glowing, .addManager "second" ".A" glowing]

/-- Two instances of `glowing` have the same two dynamic rules. -/
theorem refresh_compile_self_glowing :
    glowing.SparesHeadings ".A" ∧
    (glowing.compile ".A").dynamicRules.refresh glowing ".A" =
      (glowing.compile ".A").dynamicRules ∧
    ∃ own own',
      let last := (Session.fresh .standard ()).after .silent
        (glowingInstances ++ [.initialise "first", .initialise "second"])
      last.manager? "first" = some own ∧ last.manager? "second" = some own' ∧
      own'.dynamicRules = some ⟨⟨[(".A", ⟨[("width", .computed 1)]⟩),
        ("@keyframes glow", ⟨[("60%", .frame ⟨[("opacity", .computed 2)]⟩)]⟩)]⟩⟩ ∧
      last.update .silent own' (some ()) = last.update .silent own (some ()) := by
  have hspares : glowing.SparesHeadings ".A" := by
    intro event hevent selector hselector
    have hplain : ((glowing.walk ".A").filterMap Event.plainSelector?).all
        (fun s => !isKeyframesHeading s) = true := by decide +kernel
    simpa using List.all_eq_true.mp hplain selector
      (List.mem_filterMap.mpr ⟨event, hevent, hselector⟩)
  obtain ⟨hrefresh, hinstances⟩ := refresh_compile_self hspares
  obtain ⟨-, own, own', hown, hown', -, hupdate⟩ := hinstances .silent .standard () "first" "second"
    glowingInstances [] [] ⟨_, rfl, rfl, rfl⟩ ⟨_, rfl, rfl, rfl⟩ rfl (by simp [Command.renews])
    (by simp)
  have hrules : own'.dynamicRules = some ⟨⟨[(".A", ⟨[("width", .computed 1)]⟩),
      ("@keyframes glow", ⟨[("60%", .frame ⟨[("opacity", .computed 2)]⟩)]⟩)]⟩⟩ := by
    rw [← Option.some.inj hown']
    rfl
  exact ⟨hspares, hrefresh, own, own', hown, hown', hrules, hupdate _⟩

end Restyle
