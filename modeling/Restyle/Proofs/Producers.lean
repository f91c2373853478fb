import Restyle.Proofs.Rendering.FirstFailure

/-!
# Running producers

Rendering for a component runs producers, and producers may have effects of their own, so it matters
which of them run, and in which order. The producers of a rule set are listed in rendering order,
those inside frames included (`RuleSet.producers`); they are the producers of its leaves. Rendering
runs this list from its beginning: either every producer gives a value and each has run once, or the
rendering stops at the first one that fails, which is the last one to run (`RuleSet.render_cases`).
Without a component no producer runs (`RuleSet.render_without_component`).

Producers that note their runs in their memory have noted those of the list up to there
(`Evaluator.Runs.of_traced`, `Evaluator.Breaks.of_traced`).
-/

namespace Restyle

variable {P C σ : Type}

/-! ### Producers in rendering order -/

mutual

/-- The producers of a value; those of a frame are the ones inside it. -/
def RuleValue.producers : RuleValue P → List P
  | .fixed _ => []
  | .computed producer => [producer]
  | .frame ⟨declarations⟩ => declaredProducers declarations

/-- The producers of a list of declarations, in order. -/
def declaredProducers : List (String × RuleValue P) → List P
  | [] => []
  | (_, value) :: rest => value.producers ++ declaredProducers rest

end

/-- The producers of a rule set, in rendering order. -/
def RuleSet.producers (rules : RuleSet P) : List P :=
  rules.blocks.entries.flatMap fun e => declaredProducers e.2.entries

mutual

/-- The producers of a value are those of its leaves. -/
theorem RuleValue.producers_eq_map (selector property : String) : (value : RuleValue P) →
    value.producers = (value.leaves selector property).map Leaf.producer
  | .fixed _ => by simp [RuleValue.producers, RuleValue.leaves]
  | .computed _ => by simp [RuleValue.producers, RuleValue.leaves]
  | .frame ⟨declarations⟩ => by
    rw [RuleValue.producers, RuleValue.leaves]
    exact declaredProducers_eq_map selector declarations

/-- The producers of a list of declarations are those of its leaves. -/
theorem declaredProducers_eq_map (selector : String) :
    (declarations : List (String × RuleValue P)) →
    declaredProducers declarations = (declaredLeaves selector declarations).map Leaf.producer
  | [] => by simp [declaredProducers, declaredLeaves]
  | (property, value) :: rest => by
    rw [declaredProducers, declaredLeaves, List.map_append,
      ← RuleValue.producers_eq_map selector property value,
      ← declaredProducers_eq_map selector rest]

end

/-- The producers of a rule set are those of its leaves. -/
lemma RuleSet.producers_eq_map (rules : RuleSet P) :
    rules.producers = rules.leaves.map Leaf.producer := by
  rw [producers, leaves, List.map_flatMap]
  congr 1
  funext e
  exact declaredProducers_eq_map e.1 e.2.entries

/-! ### Running them -/

namespace Evaluator

/-- The producers of a list give values for a component, one after another, and lead from one memory
to another. -/
inductive Runs (eval : Evaluator P C σ) (c : C) : List P → σ → σ → Prop
  | nil (memory : σ) : Runs eval c [] memory memory
  | cons {producer : P} {rest : List P} {value : Value} {first mid last : σ}
      (hfirst : eval producer c first = (.ok value, mid)) (hrest : Runs eval c rest mid last) :
      Runs eval c (producer :: rest) first last

/-- The producers of a list are run one after another for a component until one fails with the text
`source`. Those that ran are `ran`, the failing one included. -/
inductive Breaks (eval : Evaluator P C σ) (c : C) (source : String) :
    List P → List P → σ → σ → Prop
  | here {producer : P} {rest : List P} {first last : σ}
      (hfirst : eval producer c first = (.error source, last)) :
      Breaks eval c source (producer :: rest) [producer] first last
  | later {producer : P} {rest ran : List P} {value : Value} {first mid last : σ}
      (hfirst : eval producer c first = (.ok value, mid))
      (hrest : Breaks eval c source rest ran mid last) :
      Breaks eval c source (producer :: rest) (producer :: ran) first last

variable {eval : Evaluator P C σ} {c : C} {producers ran : List P} {source : String}
  {first last : σ}

/-- Those that ran are all up to the first one that fails. -/
lemma Breaks.exists_append (h : eval.Breaks c source producers ran first last) :
    ∃ before producer after mid, producers = before ++ producer :: after ∧
      ran = before ++ [producer] ∧ eval.Runs c before first mid ∧
      eval producer c mid = (.error source, last) := by
  induction h with
  | @here producer rest first last hfirst =>
    exact ⟨[], producer, rest, first, rfl, rfl, .nil first, hfirst⟩
  | @later head rest ran value first mid last hfirst hrest ih =>
    obtain ⟨before, producer, after, mid', hlist, hran, hruns, hfails⟩ := ih
    refine ⟨head :: before, producer, after, mid', ?_, ?_, .cons hfirst hruns, hfails⟩
    · rw [hlist, List.cons_append]
    · rw [hran, List.cons_append]

/-- A traced producer that gives a value does so as before. -/
lemma of_traced {producer : P} {answer : Except String Value} {memory memory' : σ × List (P × C)}
    (h : eval.traced producer c memory = (answer, memory')) :
    eval producer c memory.1 = (answer, memory'.1) ∧ memory'.2 = memory.2 ++ [(producer, c)] := by
  cases h
  exact ⟨rfl, rfl⟩

/-- If all traced producers give values, each has run once, in order. -/
lemma Runs.of_traced {first last : σ × List (P × C)} (h : eval.traced.Runs c producers first last) :
    eval.Runs c producers first.1 last.1 ∧ last.2 = first.2 ++ producers.map (·, c) := by
  induction h with
  | nil memory => exact ⟨.nil memory.1, by simp⟩
  | @cons producer rest value first mid last hfirst hrest ih =>
    obtain ⟨hgives, hnoted⟩ := Evaluator.of_traced hfirst
    obtain ⟨hruns, htrace⟩ := ih
    refine ⟨.cons hgives hruns, ?_⟩
    rw [htrace, hnoted, List.append_assoc]
    rfl

/-- If a traced producer fails, those up to it have run once each, in order. -/
lemma Breaks.of_traced {first last : σ × List (P × C)}
    (h : eval.traced.Breaks c source producers ran first last) :
    eval.Breaks c source producers ran first.1 last.1 ∧ last.2 = first.2 ++ ran.map (·, c) := by
  induction h with
  | here hfirst =>
    obtain ⟨hfails, hnoted⟩ := Evaluator.of_traced hfirst
    exact ⟨.here hfails, hnoted⟩
  | @later producer rest ran value first mid last hfirst hrest ih =>
    obtain ⟨hgives, hnoted⟩ := Evaluator.of_traced hfirst
    obtain ⟨hbreaks, htrace⟩ := ih
    refine ⟨.later hgives hbreaks, ?_⟩
    rw [htrace, hnoted, List.append_assoc]
    rfl

end Evaluator

/-! ### Rendering runs the producers -/

section Leaves

variable {eval : Evaluator P C σ} {c : C} {leaves : List (Leaf P)} {values : List Value}
  {first mid last : σ}

/-- Leaves that give values have run. -/
lemma LeavesGive.runs (h : LeavesGive eval (some c) leaves values first last) :
    eval.Runs c (leaves.map Leaf.producer) first last := by
  induction h with
  | nil memory => exact .nil memory
  | cons hcomponent hfirst hrest ih =>
    obtain rfl := Option.some.inj hcomponent
    exact .cons hfirst ih

/-- If a leaf fails behind leaves that give values, it is the last one to run. -/
lemma LeavesGive.breaks (h : LeavesGive eval (some c) leaves values first mid) {leaf : Leaf P}
    {source : String} (hfails : eval leaf.producer c mid = (.error source, last))
    (later : List (Leaf P)) :
    eval.Breaks c source ((leaves ++ leaf :: later).map Leaf.producer)
      ((leaves ++ [leaf]).map Leaf.producer) first last := by
  induction h with
  | nil memory => exact .here hfails
  | cons hcomponent hfirst hrest ih =>
    obtain rfl := Option.some.inj hcomponent
    exact .later hfirst (ih hfails)

/-- Without a component no leaf runs. -/
lemma LeavesGive.memory_eq (h : LeavesGive eval none leaves values first last) : last = first := by
  cases h with
  | nil => rfl
  | cons hcomponent => cases hcomponent

end Leaves

namespace RuleSet

variable (rules : RuleSet P) (eval : Evaluator P C σ) (layout : Layout) (memory : σ)

/-- Rendering for a component runs the producers of a rule set in order. Either all give values, and
there is a text; or one fails, and it is the last one that ran. -/
theorem render_cases (c : C) :
    (∃ text last, eval.Runs c rules.producers memory last ∧
      rules.render eval (some c) layout memory = (.ok text, last)) ∨
    ∃ source ran last selector property,
      eval.Breaks c source rules.producers ran memory last ∧
      rules.render eval (some c) layout memory =
        (.error (.producerFailed selector property source), last) := by
  rw [producers_eq_map, render]
  rcases leavesGive_or_exists_isFirst eval (some c) rules.leaves memory with
    ⟨values, last, hgive⟩ | ⟨⟨earlier, values, leaf, error, last⟩, hfirst⟩
  · rw [renderInto_of_leavesGive layout "" hgive]
    exact Or.inl ⟨_, last, hgive.runs, rfl⟩
  · obtain ⟨before, after, hcut, hearlier⟩ := exists_cut_at_failure hfirst
    rw [renderInto_of_isFirst layout "" _ hcut hearlier hfirst]
    obtain ⟨later, mid, hsplit, hgive, hfails⟩ := hfirst
    rw [hsplit]
    have hfails : LeafFails eval leaf (some c) mid error last := hfails
    cases hfails with
    | @failed _ source _ _ hfails =>
      exact Or.inr ⟨source, _, last, leaf.selector, leaf.property, hgive.breaks hfails later, rfl⟩

/-- Rendering without a component runs no producer. There is a text, or a producer was reached that
misses the component. -/
theorem render_none_cases :
    (∃ text, rules.render eval (none : Option C) layout memory = (.ok text, memory)) ∨
    ∃ selector property, rules.render eval (none : Option C) layout memory =
      (.error (.missingComponent selector property), memory) := by
  rw [render]
  rcases leavesGive_or_exists_isFirst eval none rules.leaves memory with
    ⟨values, last, hgive⟩ | ⟨⟨earlier, values, leaf, error, last⟩, hfirst⟩
  · rw [renderInto_of_leavesGive layout "" hgive]
    exact Or.inl ⟨_, by rw [hgive.memory_eq]⟩
  · obtain ⟨before, after, hcut, hearlier⟩ := exists_cut_at_failure hfirst
    rw [renderInto_of_isFirst layout "" _ hcut hearlier hfirst]
    obtain ⟨later, mid, -, hgive, hfails⟩ := hfirst
    have hfails : LeafFails eval leaf none mid error last := hfails
    cases hfails with
    | missing => exact Or.inr ⟨leaf.selector, leaf.property, by rw [hgive.memory_eq]⟩

/-- Rendering without a component leaves the memory alone. -/
theorem render_without_component :
    (rules.render eval (none : Option C) layout memory).2 = memory := by
  rcases rules.render_none_cases eval layout memory with
    ⟨text, hrender⟩ | ⟨selector, property, hrender⟩
  · rw [hrender]
  · rw [hrender]

end RuleSet

end Restyle
