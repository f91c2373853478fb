import Restyle.Proofs.Rendering

/-!
# Rendering from related memories

What producers remember matters to rendering through the values that they give, and in no other way.
So let two evaluators give the same values from related memories and leave related memories behind
(`Evaluator.Follows`). Then a rule set is rendered to the same text or with the same error
(`RuleSet.render_follows`).

There are two uses. Producers that note their runs give the values that they give without notes
(`Evaluator.follows_traced`). Producers that depend on the component only give the same values
whatever they remember (`Evaluator.IsStateless`).
-/

namespace Restyle

variable {P C σ τ : Type}

/-! ### Evaluators with related memories -/

namespace Evaluator

/-- From related memories two evaluators give the same values and leave related memories. -/
def Follows (R : σ → τ → Prop) (eval : Evaluator P C σ) (eval' : Evaluator P C τ) : Prop :=
  ∀ producer c memory memory', R memory memory' →
    (eval' producer c memory').1 = (eval producer c memory).1 ∧
      R (eval producer c memory).2 (eval' producer c memory').2

/-- Producers that note each of their runs in the memory, before they do anything else. -/
def traced (eval : Evaluator P C σ) : Evaluator P C (σ × List (P × C)) := fun producer c memory =>
  ((eval producer c memory.1).1, ((eval producer c memory.1).2, memory.2 ++ [(producer, c)]))

/-- The values depend on the component only, not on what producers remember. -/
def IsStateless (eval : Evaluator P C σ) : Prop :=
  ∀ producer c memory memory', (eval producer c memory').1 = (eval producer c memory).1

/-- Notes about the runs change no value. -/
lemma follows_traced (eval : Evaluator P C σ) :
    eval.Follows (fun memory memory' => memory'.1 = memory) eval.traced := by
  rintro producer c memory memory' rfl
  exact ⟨rfl, rfl⟩

/-- With values that depend on the component only, all memories are as good as each other. -/
lemma IsStateless.follows {eval : Evaluator P C σ} (h : eval.IsStateless) :
    eval.Follows (fun _ _ => True) eval :=
  fun producer c memory memory' _ => ⟨h producer c memory memory', trivial⟩

end Evaluator

/-! ### Rendering -/

/-- Two pages with the same text and related memories. -/
structure Page.Matches (R : σ → τ → Prop) (page : Page σ) (page' : Page τ) : Prop where
  /-- The texts are the same. -/
  text : page'.text = page.text
  /-- The memories are related. -/
  memory : R page.memory page'.memory

/-- Two actions both succeed or both fail with the same error, and leave matching pages. -/
inductive Writing.Matches (R : σ → τ → Prop) :
    EStateM.Result StyleError (Page σ) Unit → EStateM.Result StyleError (Page τ) Unit → Prop
  | ok {page : Page σ} {page' : Page τ} (h : page.Matches R page') :
      Matches R (.ok () page) (.ok () page')
  | error (e : StyleError) {page : Page σ} {page' : Page τ} (h : page.Matches R page') :
      Matches R (.error e page) (.error e page')

section Render

variable {R : σ → τ → Prop} {eval : Evaluator P C σ} {eval' : Evaluator P C τ}
  (heval : eval.Follows R eval') (component : Option C) (layout : Layout)
include heval

/-- A piece written on matching pages leaves matching pages. -/
lemma Piece.write_matches (piece : Piece P) {page : Page σ} {page' : Page τ}
    (h : page.Matches R page') :
    Writing.Matches R (piece.write eval component layout page)
      (piece.write eval' component layout page') := by
  have happend : ∀ text : String,
      Writing.Matches R (Writing.append text page) (Writing.append text page') :=
    fun text => .ok ⟨by rw [h.text], h.memory⟩
  cases piece with
  | opening heading => exact happend _
  | fixed property value => exact happend _
  | closing => exact happend _
  | computed selector property producer =>
    cases component with
    | none => exact .error _ h
    | some c =>
      obtain ⟨hvalue, hmemory⟩ := heval producer c page.memory page'.memory h.memory
      simp only [write, writeComputed]
      generalize eval producer c page.memory = answer at hvalue hmemory
      generalize eval' producer c page'.memory = answer' at hvalue hmemory
      obtain ⟨value, memory⟩ := answer
      obtain ⟨value', memory'⟩ := answer'
      obtain rfl : value' = value := hvalue
      cases value' with
      | ok value => exact .ok ⟨by rw [h.text], hmemory⟩
      | error source => exact .error _ ⟨h.text, hmemory⟩

/-- Pieces written on matching pages leave matching pages. -/
lemma writePieces_matches (pieces : List (Piece P)) {page : Page σ} {page' : Page τ}
    (h : page.Matches R page') :
    Writing.Matches R (writePieces eval component layout pieces page)
      (writePieces eval' component layout pieces page') := by
  induction pieces generalizing page page' with
  | nil => exact .ok h
  | cons piece rest ih =>
    have hpiece := piece.write_matches heval component layout h
    rw [writePieces, writePieces, Writing.andThen, Writing.andThen]
    generalize piece.write eval component layout page = result at hpiece
    generalize piece.write eval' component layout page' = result' at hpiece
    cases hpiece with
    | ok hpage => exact ih hpage
    | error e hpage => exact .error e hpage

/-- From related memories a rule set is rendered to the same text or with the same error. -/
lemma RuleSet.render_follows (rules : RuleSet P) {memory : σ} {memory' : τ}
    (h : R memory memory') :
    (rules.render eval' component layout memory').1 =
        (rules.render eval component layout memory).1 ∧
      R (rules.render eval component layout memory).2
        (rules.render eval' component layout memory').2 := by
  have hblank : Page.Matches R ⟨"", memory⟩ ⟨"", memory'⟩ := ⟨rfl, h⟩
  have hpieces := writePieces_matches heval component layout rules.pieces hblank
  simp only [render, renderInto_eq_writePieces]
  generalize writePieces eval component layout rules.pieces ⟨"", memory⟩ = result at hpieces
  generalize writePieces eval' component layout rules.pieces ⟨"", memory'⟩ = result' at hpieces
  cases hpieces with
  | ok hpage => exact ⟨congrArg Except.ok hpage.text, hpage.memory⟩
  | error e hpage => exact ⟨rfl, hpage.memory⟩

end Render

end Restyle
