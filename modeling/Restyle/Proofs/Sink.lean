import Mathlib.Data.List.Basic
import Mathlib.Tactic.Lemma
import Restyle.Sink

/-!
# Texts delivered to a limited sink

A text is delivered by offering its bytes until all are taken or the sink is full. `Sink.Offered`
leaves open how many bytes the sink takes each time: any portion that fits, as long as it takes
something while it has room. What becomes of the bytes does not depend on the portions
(`Sink.Offered.eq_poured`).

So a sink that was offered texts holds the first bytes of all of them together, as many as fit, and
a text got through if it is empty or ends within the limit (`Sink.deliverAll_outcome`). This holds
as well of texts after one that failed, and where the limit falls inside the encoding of a
character.
-/

namespace Restyle

namespace Sink

/-! ### Limits -/

section Limits

variable (limit : Option Nat) (sent bytes : List UInt8)

/-- A number of bytes stays within a limit, if there is one. -/
abbrev Within (n : Nat) : Prop := ∀ most ∈ limit, n ≤ most

/-- The first bytes up to a limit, or all bytes if there is none. -/
def upTo : List UInt8 :=
  match limit with
  | none => bytes
  | some most => bytes.take most

/-- The bytes up to a limit stay within it. -/
lemma within_length_upTo : Within limit (upTo limit bytes).length := by
  cases limit with
  | none => simp [Within]
  | some most =>
    simp only [Within, upTo, Option.mem_some_iff, forall_eq', List.length_take]
    omega

variable {limit bytes} in
/-- Bytes that stay within a limit are all up to it. -/
lemma upTo_of_within (h : Within limit bytes.length) : upTo limit bytes = bytes := by
  cases limit with
  | none => rfl
  | some most => exact List.take_of_length_le (h most rfl)

/-- What fits behind the first bytes up to a limit are those that follow. -/
lemma upTo_append : upTo limit (upTo limit sent ++ bytes) = upTo limit (sent ++ bytes) := by
  cases limit with
  | none => rfl
  | some most =>
    have hrest : most - min most sent.length = most - sent.length := by omega
    simp only [upTo, List.take_append, List.take_take, Nat.min_self, List.length_take, hrest]

/-- Bytes fit behind those up to a limit if there are none, or if they fit behind all that was sent.
-/
lemma within_upTo_iff : Within limit ((upTo limit sent).length + bytes.length) ↔
    bytes = [] ∨ Within limit (sent.length + bytes.length) := by
  cases limit with
  | none => simp [Within]
  | some most =>
    have hnil : bytes = [] ↔ bytes.length = 0 := List.length_eq_zero_iff.symm
    simp only [Within, upTo, Option.mem_some_iff, forall_eq', List.length_take, hnil]
    omega

end Limits

/-! ### Offers -/

variable {s : Sink} {bytes : List UInt8} {outcome : Bool × Sink}

/-- What can become of bytes that are offered until all are taken. As long as it has room, the sink
takes some of the bytes, and it is left open how many. -/
inductive Offered : Sink → List UInt8 → Bool × Sink → Prop
  /-- There are no more bytes to be taken. -/
  | done {s : Sink} : Offered s [] (true, s)
  /-- There are, and the sink has no room. -/
  | full {s : Sink} {bytes : List UInt8} (hleft : bytes ≠ []) (hroom : s.room bytes.length = 0) :
    Offered s bytes (false, s)
  /-- The sink takes a portion, and the rest is offered again. -/
  | portion {s : Sink} {bytes : List UInt8} {n : Nat} {outcome : Bool × Sink} (hpos : 0 < n)
    (hfits : n ≤ s.room bytes.length)
    (hrest : Offered { s with held := s.held ++ bytes.take n } (bytes.drop n) outcome) :
    Offered s bytes outcome

/-- The sink with as many of the bytes as fit, and whether these are all. -/
def poured (s : Sink) (bytes : List UInt8) : Bool × Sink :=
  (decide (Within s.capacity (s.held.length + bytes.length)),
    { s with held := upTo s.capacity (s.held ++ bytes) })

/-- A portion that fits leaves the sink within its limit. -/
lemma within_of_le_room {n : Nat} (hs : Within s.capacity s.held.length)
    (hfits : n ≤ s.room bytes.length) : Within s.capacity (s.held ++ bytes.take n).length := by
  intro most hmost
  have hheld : s.held.length ≤ most := hs most hmost
  simp only [room, Option.mem_def.mp hmost] at hfits
  simp only [List.length_append, List.length_take]
  omega

/-- A sink without room for bytes takes none of them. -/
lemma poured_of_room_eq_zero (hs : Within s.capacity s.held.length) (hleft : bytes ≠ [])
    (hroom : s.room bytes.length = 0) : s.poured bytes = (false, s) := by
  obtain ⟨capacity, held, flushes⟩ := s
  have hpos : 0 < bytes.length := List.length_pos_iff.mpr hleft
  cases capacity with
  | none =>
    simp only [room] at hroom
    omega
  | some most =>
    have hheld : held.length ≤ most := hs most rfl
    obtain rfl : held.length = most := by
      simp only [room] at hroom
      omega
    have hnot : ¬Within (some held.length) (held.length + bytes.length) := fun h => by
      have hle : held.length + bytes.length ≤ held.length := h _ rfl
      omega
    simp only [poured, hnot, decide_false, upTo, List.take_left]

/-- A portion that fits makes no difference to what the sink takes in the end. -/
lemma poured_of_le_room {n : Nat} (hfits : n ≤ s.room bytes.length) :
    poured { s with held := s.held ++ bytes.take n } (bytes.drop n) = s.poured bytes := by
  have hn : n ≤ bytes.length := by
    refine Nat.le_trans hfits ?_
    unfold room
    cases s.capacity with
    | none => exact Nat.le_refl _
    | some most => exact Nat.min_le_left _ _
  have hlength : (s.held ++ bytes.take n).length + (bytes.drop n).length =
      s.held.length + bytes.length := by
    simp only [List.length_append, List.length_take, List.length_drop]
    omega
  simp only [poured, hlength, List.append_assoc, List.take_append_drop]

/-- However the bytes are taken, in the end the sink has as many as fit. -/
lemma Offered.eq_poured (h : s.Offered bytes outcome) (hs : Within s.capacity s.held.length) :
    outcome = s.poured bytes := by
  induction h with
  | done => rw [poured, List.length_nil, Nat.add_zero, List.append_nil, upTo_of_within hs,
      decide_eq_true hs]
  | full hleft hroom => exact (poured_of_room_eq_zero hs hleft hroom).symm
  | portion hpos hfits _ ih => rw [ih (within_of_le_room hs hfits), poured_of_le_room hfits]

/-- To take all that fits at once is one way to take the bytes. -/
lemma offered_offerAll (s : Sink) (bytes : List UInt8) : s.Offered bytes (s.offerAll bytes) := by
  induction s, bytes using offerAll.induct with
  | case1 s =>
    rw [offerAll, if_pos rfl]
    exact .done
  | case2 s bytes hleft hroom =>
    rw [offerAll, if_neg hleft, if_pos hroom]
    exact .full hleft hroom
  | case3 s bytes hleft hroom ih =>
    rw [offerAll, if_neg hleft, if_neg hroom]
    exact .portion (Nat.pos_of_ne_zero hroom) (Nat.le_refl _) ih

lemma offerAll_eq_poured (hs : Within s.capacity s.held.length) (bytes : List UInt8) :
    s.offerAll bytes = s.poured bytes :=
  (offered_offerAll s bytes).eq_poured hs

/-! ### Texts -/

/-- The bytes of a text. -/
def encoded (text : String) : List UInt8 := text.toUTF8.data.toList

/-- The bytes of texts one after another. -/
def encodedAll (texts : List String) : List UInt8 := texts.flatMap encoded

/-- Only the empty text has no bytes. -/
lemma encoded_eq_nil_iff {text : String} : encoded text = [] ↔ text = "" := by
  constructor
  · intro h
    have hbytes : text.toByteArray = "".toByteArray := ByteArray.ext (Array.toList_eq_nil_iff.mp h)
    exact String.toByteArray_inj.mp hbytes
  · rintro rfl
    rfl

/-- Whether each text gets through that is delivered after the bytes `sent`: it does if it is empty,
or if all that was sent then stays within the limit. -/
def successes (limit : Option Nat) : List UInt8 → List String → List Bool
  | _, [] => []
  | sent, text :: rest =>
    decide (text = "" ∨ Within limit (sent ++ encoded text).length) ::
      successes limit (sent ++ encoded text) rest

/-- A text gets through if it is empty or ends within the limit. -/
lemma getElem?_successes (limit : Option Nat) (sent : List UInt8) (texts : List String) (i : Nat) :
    (successes limit sent texts)[i]? = texts[i]?.map fun text =>
      decide (text = "" ∨ Within limit (sent ++ encodedAll (texts.take (i + 1))).length) := by
  induction texts generalizing sent i with
  | nil => rfl
  | cons text rest ih =>
    cases i with
    | zero => simp [successes, encodedAll]
    | succ i =>
      rw [successes, List.getElem?_cons_succ, List.getElem?_cons_succ, ih]
      simp only [encodedAll, List.take_succ_cons, List.flatMap_cons, List.append_assoc]

section Delivery

variable {s' : Sink} {text : String}

/-- A text whose bytes are all taken gets through. -/
lemma deliver_of_done (h : s.offerAll (encoded text) = (true, s')) :
    s.deliver text = (true, s'.flush) := by
  unfold encoded at h
  rw [deliver, h]

/-- A text that has bytes left over does not. -/
lemma deliver_of_full (h : s.offerAll (encoded text) = (false, s')) :
    s.deliver text = (false, s') := by
  unfold encoded at h
  rw [deliver, h]

end Delivery

section Sent

variable (limit : Option Nat) (sent : List UInt8) (flushes : Nat)

/-- The sink to which `sent` was sent: it holds the first of these bytes. -/
def filled : Sink := ⟨limit, upTo limit sent, flushes⟩

lemma within_filled : Within (filled limit sent flushes).capacity
    (filled limit sent flushes).held.length := within_length_upTo limit sent

/-- Bytes that are offered behind others all fit, or as many as the limit leaves room for. -/
lemma offerAll_filled (bytes : List UInt8) :
    (filled limit sent flushes).offerAll bytes =
      (decide (bytes = [] ∨ Within limit (sent ++ bytes).length),
        filled limit (sent ++ bytes) flushes) := by
  have hfits : Within limit ((upTo limit sent).length + bytes.length) ↔
      bytes = [] ∨ Within limit (sent ++ bytes).length := by
    rw [within_upTo_iff, List.length_append]
  rw [offerAll_eq_poured (within_filled limit sent flushes)]
  simp only [poured, filled, upTo_append, hfits]

/-- One more text gets through if it is empty or ends within the limit. -/
lemma deliver_filled (text : String) :
    (filled limit sent flushes).deliver text =
      if text = "" ∨ Within limit (sent ++ encoded text).length then
        (true, filled limit (sent ++ encoded text) (flushes + 1))
      else (false, filled limit (sent ++ encoded text) flushes) := by
  have hoffer := offerAll_filled limit sent flushes (encoded text)
  simp only [encoded_eq_nil_iff] at hoffer
  split
  · rename_i h
    rw [decide_eq_true h] at hoffer
    exact deliver_of_done hoffer
  · rename_i h
    rw [decide_eq_false h] at hoffer
    exact deliver_of_full hoffer

/-- The texts that get through are flushed, and the others are not. -/
lemma deliverAll_filled (texts : List String) :
    (filled limit sent flushes).deliverAll texts =
      (successes limit sent texts, filled limit (sent ++ encodedAll texts)
        (flushes + (successes limit sent texts).count true)) := by
  induction texts generalizing sent flushes with
  | nil => simp [deliverAll, successes, encodedAll]
  | cons text rest ih =>
    have hsent : sent ++ encodedAll (text :: rest) = sent ++ encoded text ++ encodedAll rest := by
      rw [encodedAll, List.flatMap_cons, List.append_assoc, encodedAll]
    rw [deliverAll, deliver_filled, successes, hsent]
    by_cases h : text = "" ∨ Within limit (sent ++ encoded text).length
    · simp only [if_pos h, ih, decide_eq_true h, List.count_cons_self, Nat.add_assoc,
        Nat.add_comm 1]
    · have hne : false ≠ true := by decide
      simp only [if_neg h, ih, decide_eq_false h, List.count_cons_of_ne hne]

end Sent

/-- What can become of texts that are delivered one after another, if it is left open in which
portions the sink takes each of them. Only a text that was taken as a whole is followed by a flush.
-/
inductive Delivered : Sink → List String → List Bool × Sink → Prop
  /-- There are no more texts. -/
  | nil {s : Sink} : Delivered s [] ([], s)
  /-- The sink takes the next text. -/
  | done {s s' last : Sink} {text : String} {rest : List String} {others : List Bool}
    (htext : s.Offered (encoded text) (true, s'))
    (hrest : Delivered s'.flush rest (others, last)) :
    Delivered s (text :: rest) (true :: others, last)
  /-- The sink has no room for the rest of the next text. -/
  | failed {s s' last : Sink} {text : String} {rest : List String} {others : List Bool}
    (htext : s.Offered (encoded text) (false, s'))
    (hrest : Delivered s' rest (others, last)) :
    Delivered s (text :: rest) (false :: others, last)

/-- Whatever was offered to a sink within its limit is what the sink takes at once, and it stays
within its limit. -/
lemma Offered.eq_offerAll (h : s.Offered bytes outcome) (hs : Within s.capacity s.held.length) :
    s.offerAll bytes = outcome ∧ Within outcome.2.capacity outcome.2.held.length := by
  rw [offerAll_eq_poured hs, h.eq_poured hs]
  exact ⟨rfl, within_length_upTo _ _⟩

/-- In whichever portions the texts are taken, the outcome is that of taking all that fits at once.
-/
lemma Delivered.eq_deliverAll {texts : List String} {outcome : List Bool × Sink}
    (h : s.Delivered texts outcome) (hs : Within s.capacity s.held.length) :
    outcome = s.deliverAll texts := by
  induction h with
  | nil => rfl
  | done htext _ ih =>
    obtain ⟨hoffer, hwithin⟩ := htext.eq_offerAll hs
    rw [deliverAll, deliver_of_done hoffer]
    simp only [← ih hwithin]
  | failed htext _ ih =>
    obtain ⟨hoffer, hwithin⟩ := htext.eq_offerAll hs
    rw [deliverAll, deliver_of_full hoffer]
    simp only [← ih hwithin]

/-- To take all that fits at once is one way to take the texts. -/
lemma delivered_deliverAll (s : Sink) (texts : List String) :
    s.Delivered texts (s.deliverAll texts) := by
  induction texts generalizing s with
  | nil => exact .nil
  | cons text rest ih =>
    have htext : s.Offered (encoded text) (s.offerAll (encoded text)) := offered_offerAll s _
    rw [deliverAll]
    cases hoffer : s.offerAll (encoded text) with
    | mk done s' =>
      rw [hoffer] at htext
      cases done with
      | true =>
        rw [deliver_of_done hoffer]
        exact .done htext (ih s'.flush)
      | false =>
        rw [deliver_of_full hoffer]
        exact .failed htext (ih s')

/-- Texts are delivered to a sink that takes so many bytes in all and has taken none yet. In the end
it holds the first bytes of all texts together, as many as it takes. A text gets through if and only
if it is empty or all texts up to this one stay within the limit, and the sink is flushed once for
each text that gets through. This does not depend on the portions in which the sink takes the bytes.
-/
theorem deliverAll_outcome (limit : Option Nat) (texts : List String) :
    ((fresh limit).deliverAll texts).2.held = upTo limit (encodedAll texts) ∧
    (∀ i : Nat, ((fresh limit).deliverAll texts).1[i]? = texts[i]?.map fun text =>
      decide (text = "" ∨ Within limit (encodedAll (texts.take (i + 1))).length)) ∧
    ((fresh limit).deliverAll texts).2.flushes = ((fresh limit).deliverAll texts).1.count true ∧
    ∀ other, (fresh limit).Delivered texts other ↔ other = (fresh limit).deliverAll texts := by
  have hfresh : fresh limit = filled limit [] 0 := by
    cases limit <;> simp [fresh, filled, upTo]
  have heq : (fresh limit).deliverAll texts =
      (successes limit [] texts,
        filled limit (encodedAll texts) (0 + (successes limit [] texts).count true)) :=
    hfresh ▸ deliverAll_filled limit [] 0 texts
  refine ⟨?_, fun i => ?_, ?_, fun other => ⟨fun h => ?_, ?_⟩⟩
  · rw [heq, filled]
  · rw [heq]
    exact getElem?_successes limit [] texts i
  · rw [heq, filled, Nat.zero_add]
  · exact h.eq_deliverAll fun most _ => Nat.zero_le most
  · rintro rfl
    exact delivered_deliverAll _ texts

/-- Four texts of one, three, no and one byte. -/
def shortTexts : List String := ["a", "b€", "", "c"]

/-- A sink for three bytes may take the second text byte by byte. It is full in the middle of a
character, the empty text still gets through, and the last text does not. -/
theorem deliverAll_outcome_shortTexts :
    (fresh (some 3)).Delivered shortTexts ([true, false, true, false], ⟨some 3, [97, 98, 226], 2⟩) ∧
    (fresh (some 3)).deliverAll shortTexts =
      ([true, false, true, false], ⟨some 3, [97, 98, 226], 2⟩) := by
  have hfirst : (fresh (some 3)).Offered (encoded "a") (true, ⟨some 3, [97], 0⟩) :=
    .portion (show 0 < 1 by decide) (by decide) .done
  have hsecond : (Sink.mk (some 3) [97] 1).Offered (encoded "b€")
      (false, ⟨some 3, [97, 98, 226], 1⟩) :=
    .portion (show 0 < 1 by decide) (by decide)
      (.portion (show 0 < 1 by decide) (by decide) (.full (by decide) (by decide)))
  have hlast : (Sink.mk (some 3) [97, 98, 226] 2).Offered (encoded "c")
      (false, ⟨some 3, [97, 98, 226], 2⟩) := .full (by decide) (by decide)
  have hdelivered : (fresh (some 3)).Delivered shortTexts
      ([true, false, true, false], ⟨some 3, [97, 98, 226], 2⟩) :=
    .done hfirst (.failed hsecond (.done .done (.failed hlast .nil)))
  obtain ⟨-, -, -, houtcome⟩ := deliverAll_outcome (some 3) shortTexts
  exact ⟨hdelivered, ((houtcome _).mp hdelivered).symm⟩

end Sink

end Restyle
