import Mathlib.Tactic
import Modbus.Payload

/-!
# What a step reads

A step that reads a payload is described by the octets it takes: which octets
spell which value.  The description is exact.  A step succeeds on a payload if
and only if the payload begins with octets that spell a value, and then it
returns that value and leaves the rest.  Both directions of a round trip come
from the same description.
-/

namespace Modbus

open Payload

/-! ## Steps one after another -/

section Stateful

variable {ε σ α β : Type} {work : ExceptT ε (StateM σ) α} {next : α → ExceptT ε (StateM σ) β}
  {before after : σ}

theorem stateful_bind_ok {result : α} (hwork : work before = (.ok result, after)) :
    (work >>= next) before = next result after := by
  simp only [bind, ExceptT.bind, ExceptT.mk, StateT.bind, hwork]
  rfl

theorem stateful_bind_error {error : ε} (hwork : work before = (.error error, after)) :
    (work >>= next) before = (.error error, after) := by
  simp only [bind, ExceptT.bind, ExceptT.mk, StateT.bind, hwork]
  rfl

/-- Looking at the state changes nothing. -/
theorem stateful_get_bind {look : σ → ExceptT ε (StateM σ) β} :
    ((get : ExceptT ε (StateM σ) σ) >>= look) before = look before before :=
  stateful_bind_ok rfl

/-- What comes behind a change of the state finds the state changed. -/
theorem stateful_modify_bind {change : σ → σ} {next : PUnit → ExceptT ε (StateM σ) β} :
    ((modify change : ExceptT ε (StateM σ) PUnit) >>= next) before = next ⟨⟩ (change before) :=
  stateful_bind_ok rfl

theorem stateful_bind_eq_ok_iff {result : β} :
    (work >>= next) before = (.ok result, after) ↔
      ∃ value between, work before = (.ok value, between) ∧
        next value between = (.ok result, after) := by
  constructor
  · intro hbind
    obtain ⟨⟨outcome, between⟩, hwork⟩ : ∃ result, work before = result := ⟨_, rfl⟩
    cases outcome with
    | error error =>
        rw [stateful_bind_error hwork] at hbind
        have hfailed := (Prod.mk.inj hbind).1
        contradiction
    | ok value => exact ⟨value, between, hwork, (stateful_bind_ok hwork).symm.trans hbind⟩
  · rintro ⟨value, between, hwork, hnext⟩
    exact (stateful_bind_ok hwork).trans hnext

end Stateful

theorem Parse.bind_eq_ok_iff {α β : Type} {item : Parse α} {next : α → Parse β}
    {payload : Payload} {result : β × Payload} :
    (item >>= next) payload = .ok result ↔
      ∃ value between, item payload = .ok (value, between) ∧
        next value between = .ok result := by
  have hbind : (item >>= next) payload =
      (item payload).bind fun read => next read.1 read.2 := rfl
  rw [hbind]
  cases hfirst : item payload with
  | error error => simp [Except.bind]
  | ok read =>
      obtain ⟨value, between⟩ := read
      simp [Except.bind]

/-- `item` reads a value from exactly those octets that spell it, whatever
follows them. -/
def Parse.Reads {α : Type} (item : Parse α) (spells : α → List UInt8 → Prop) : Prop :=
  ∀ (payload after : Payload) (value : α),
    item payload = .ok (value, after) ↔
      ∃ octets, spells value octets ∧ payload.rest = octets ++ after.rest ∧
        after.offset = payload.offset + octets.length

namespace Parse.Reads

variable {α β : Type} {item : Parse α} {spells : α → List UInt8 → Prop}

theorem congr {others : α → List UInt8 → Prop} (hitem : item.Reads spells)
    (hsame : ∀ value octets, spells value octets ↔ others value octets) :
    item.Reads others := by
  intro payload after value
  rw [hitem payload after value]
  simp only [hsame]

/-- One step after another reads the octets of both. -/
theorem bind {next : α → Parse β} {others : α → β → List UInt8 → Prop}
    (hitem : item.Reads spells) (hnext : ∀ value, (next value).Reads (others value)) :
    (item >>= next).Reads fun result octets =>
      ∃ value front back, spells value front ∧ others value result back ∧
        octets = front ++ back := by
  intro payload after result
  rw [bind_eq_ok_iff]
  constructor
  · rintro ⟨value, between, hfirst, hsecond⟩
    obtain ⟨front, hfront, hrest, hoffset⟩ := (hitem payload between value).mp hfirst
    obtain ⟨back, hback, hrest', hoffset'⟩ := (hnext value between after result).mp hsecond
    refine ⟨front ++ back, ⟨value, front, back, hfront, hback, rfl⟩, ?_, ?_⟩
    · rw [hrest, hrest', List.append_assoc]
    · rw [hoffset', hoffset, List.length_append, Nat.add_assoc]
  · rintro ⟨octets, ⟨value, front, back, hfront, hback, rfl⟩, hrest, hoffset⟩
    refine ⟨value, ⟨payload.offset + front.length, back ++ after.rest⟩, ?_, ?_⟩
    · exact (hitem _ _ _).mpr ⟨front, hfront, by rw [hrest, List.append_assoc], rfl⟩
    · refine (hnext _ _ _ _).mpr ⟨back, hback, rfl, ?_⟩
      rw [hoffset, List.length_append, Nat.add_assoc]

theorem pure (value : α) :
    (Pure.pure value : Parse α).Reads fun result octets => result = value ∧ octets = [] := by
  intro payload after result
  have hpure : (Pure.pure value : Parse α) payload = .ok (value, payload) := rfl
  rw [hpure]
  constructor
  · intro hok
    cases hok
    exact ⟨[], ⟨rfl, rfl⟩, rfl, rfl⟩
  · rintro ⟨octets, ⟨rfl, rfl⟩, hrest, hoffset⟩
    cases payload
    cases after
    simp_all

/-- A check reads nothing. -/
theorem check (outcome : Except Error α) :
    (monadLift outcome : Parse α).Reads fun result octets =>
      outcome = .ok result ∧ octets = [] := by
  cases outcome with
  | error error =>
      intro payload after result
      constructor
      · intro hok
        contradiction
      · rintro ⟨octets, ⟨hok, -⟩, -⟩
        contradiction
  | ok value =>
      refine (Parse.Reads.pure value).congr ?_
      intro result octets
      simp only [Except.ok.injEq]
      rw [eq_comm]

/-- A step that is not taken if `refused` holds. -/
theorem guarded {refused : Prop} [Decidable refused] {error : Error} {next : Parse α}
    {skipped : PUnit → Parse α} (hnext : next.Reads spells) :
    (if refused then (throw error : Parse PUnit) >>= skipped else next).Reads
      fun result octets => ¬refused ∧ spells result octets := by
  by_cases hrefused : refused
  · intro payload after result
    rw [if_pos hrefused, bind_eq_ok_iff]
    constructor
    · rintro ⟨_, _, hthrow, -⟩
      contradiction
    · rintro ⟨octets, ⟨hnot, -⟩, -⟩
      contradiction
  · rw [if_neg hrefused]
    exact hnext.congr fun result octets => by simp [hrefused]

end Parse.Reads

/-! ## Fields -/

theorem Payload.reads_octet : octet.Reads fun value octets => octets = [value] := by
  intro payload after value
  obtain ⟨offset, rest⟩ := payload
  obtain ⟨offset', rest'⟩ := after
  cases rest with
  | nil => simp [octet]
  | cons first rest =>
      simp only [octet, Except.ok.injEq, Prod.mk.injEq, Payload.mk.injEq, exists_eq_left,
        List.singleton_append, List.cons.injEq, List.length_singleton]
      tauto

theorem Payload.reads_word : word.Reads fun value octets => octets = Word.toOctets value := by
  intro payload after value
  obtain ⟨offset, rest⟩ := payload
  obtain ⟨offset', rest'⟩ := after
  constructor
  · intro hok
    unfold word at hok
    split at hok
    · next high low rest' hrest =>
        cases hok
        refine ⟨_, rfl, ?_, rfl⟩
        rw [Word.toOctets_ofOctets]
        exact hrest
    · contradiction
  · rintro ⟨octets, rfl, hrest, hoffset⟩
    simp only [Word.toOctets, List.cons_append, List.nil_append] at hrest
    simp only [Word.toOctets, List.length_cons, List.length_nil] at hoffset
    simp only [word, hrest, Word.ofOctets_toOctets, hoffset]

theorem Payload.reads_octets (count : Nat) :
    (octets count).Reads fun value octets => octets = value ∧ value.length = count := by
  intro payload after value
  obtain ⟨offset, rest⟩ := payload
  obtain ⟨offset', rest'⟩ := after
  constructor
  · intro hok
    unfold octets at hok
    split at hok
    · contradiction
    · next hlength =>
        cases hok
        have htake : (rest.take count).length = count := by
          simp only at hlength
          rw [List.length_take]
          omega
        refine ⟨_, ⟨rfl, htake⟩, (List.take_append_drop count rest).symm, ?_⟩
        rw [htake]
  · rintro ⟨_, ⟨rfl, rfl⟩, hrest, hoffset⟩
    simp only at hrest hoffset
    subst hrest hoffset
    simp [octets]

/-! ## Rows of items -/

section Rows

variable {α : Type} {item : Parse α} {valid : α → Prop} {encode : α → List UInt8}

theorem Payload.reads_times
    (hitem : item.Reads fun value octets => valid value ∧ octets = encode value) (count : Nat) :
    (times item count).Reads fun values octets =>
      values.length = count ∧ (∀ value ∈ values, valid value) ∧
        octets = values.flatMap encode := by
  induction count with
  | zero =>
      refine (Parse.Reads.pure ([] : List α)).congr ?_
      intro values octets
      constructor
      · rintro ⟨rfl, rfl⟩
        simp
      · rintro ⟨hlength, -, hoctets⟩
        have hnil : values = [] := List.length_eq_zero_iff.mp hlength
        subst hnil
        exact ⟨rfl, by simpa using hoctets⟩
  | succ count ih =>
      refine (hitem.bind fun value =>
        ih.bind fun values => Parse.Reads.pure (value :: values)).congr ?_
      intro values octets
      constructor
      · rintro ⟨value, front, back, ⟨hvalue, rfl⟩, ⟨rest, middle, last, ⟨hlength, hrest, rfl⟩,
          ⟨rfl, rfl⟩, rfl⟩, rfl⟩
        refine ⟨by rw [List.length_cons, hlength], ?_, by simp⟩
        simpa [hvalue] using hrest
      · rintro ⟨hlength, hvalid, rfl⟩
        cases values with
        | nil => simp at hlength
        | cons value rest =>
            refine ⟨value, encode value, rest.flatMap encode, ⟨hvalid value (by simp), rfl⟩,
              ⟨rest, rest.flatMap encode, [], ⟨by simpa using hlength, ?_, rfl⟩, ⟨rfl, rfl⟩,
                by simp⟩, by simp⟩
            intro other hother
            exact hvalid other (by simp [hother])

theorem Payload.reads_words (count : Nat) :
    (words count).Reads fun values octets =>
      octets = Words.toOctets values ∧ values.length = count := by
  have hword : word.Reads fun value octets => True ∧ octets = Word.toOctets value :=
    reads_word.congr fun value octets => by simp
  refine (reads_times hword count).congr ?_
  intro values octets
  simp [Words.toOctets, and_comm]

/-- Items that take at least one octet each are read until nothing is left. -/
theorem Payload.upTo_eq_ok_iff
    (hitem : item.Reads fun value octets => valid value ∧ octets = encode value)
    (hsome : ∀ value, encode value ≠ []) {bound : Nat} {payload after : Payload}
    (hbound : payload.rest.length ≤ bound) (values : List α) :
    upTo item bound payload = .ok (values, after) ↔
      (∀ value ∈ values, valid value) ∧ payload.rest = values.flatMap encode ∧
        after = ⟨payload.offset + payload.rest.length, []⟩ := by
  induction bound generalizing payload values with
  | zero =>
      obtain ⟨offset, rest⟩ := payload
      have hrest : rest = [] := List.length_eq_zero_iff.mp (by simpa using hbound)
      subst hrest
      have hupTo : upTo item 0 ⟨offset, []⟩ = .ok ([], ⟨offset, []⟩) := rfl
      rw [hupTo]
      cases values with
      | nil => simp [eq_comm]
      | cons value rest => simp [hsome value]
  | succ bound ih =>
      obtain ⟨offset, rest⟩ := payload
      by_cases hrest : rest = []
      · subst hrest
        have hupTo : upTo item (bound + 1) ⟨offset, []⟩ = .ok ([], ⟨offset, []⟩) := rfl
        rw [hupTo]
        cases values with
        | nil => simp [eq_comm]
        | cons value rest => simp [hsome value]
      · have hupTo : upTo item (bound + 1) ⟨offset, rest⟩ =
            (item >>= fun value => upTo item bound >>= fun values => Pure.pure (value :: values))
              ⟨offset, rest⟩ := by
          cases rest with
          | nil => contradiction
          | cons first rest => rfl
        rw [hupTo]
        simp only [Parse.bind_eq_ok_iff]
        constructor
        · rintro ⟨value, between, hfirst, others, last, hothers, hpure⟩
          cases hpure
          obtain ⟨octets, ⟨hvalue, rfl⟩, hsplit, hoffset⟩ := (hitem _ _ _).mp hfirst
          simp only at hsplit hoffset
          have hlength : (encode value).length ≠ 0 := by
            simpa using hsome value
          have hfewer : between.rest.length ≤ bound := by
            have hall := congrArg List.length hsplit
            simp only [List.length_append] at hall hbound
            omega
          obtain ⟨hvalid, hrest', rfl⟩ := (ih hfewer others).mp hothers
          refine ⟨?_, ?_, ?_⟩
          · simpa [hvalue] using hvalid
          · rw [hsplit, hrest', List.flatMap_cons]
          · rw [hoffset, hsplit, List.length_append, Nat.add_assoc]
        · rintro ⟨hvalid, hsplit, hafter⟩
          cases values with
          | nil => exact absurd hsplit hrest
          | cons value others =>
              simp only [List.flatMap_cons] at hsplit
              have hlength : (encode value).length ≠ 0 := by
                simpa using hsome value
              have hfewer : (others.flatMap encode).length ≤ bound := by
                simp only [hsplit, List.length_append] at hbound
                omega
              refine ⟨value, ⟨offset + (encode value).length, others.flatMap encode⟩, ?_,
                others, after, ?_, rfl⟩
              · exact (hitem _ _ _).mpr
                  ⟨encode value, ⟨hvalid value (by simp), rfl⟩, hsplit, rfl⟩
              · refine (ih hfewer others).mpr ⟨?_, rfl, ?_⟩
                · intro other hother
                  exact hvalid other (by simp [hother])
                · rw [hafter, hsplit, List.length_append, Nat.add_assoc]

/-- A part that is read to its end holds one item after another. -/
theorem Payload.reads_within_untilEnd
    (hitem : item.Reads fun value octets => valid value ∧ octets = encode value)
    (hsome : ∀ value, encode value ≠ []) (part : List UInt8) :
    (within part (untilEnd item)).Reads fun values octets =>
      (∀ value ∈ values, valid value) ∧ part = values.flatMap encode ∧ octets = [] := by
  intro payload after values
  have hwithin : within part (untilEnd item) payload = .ok (values, after) ↔
      ∃ last, upTo item part.length ⟨0, part⟩ = .ok (values, last) ∧ payload = after := by
    have hlift : within part (untilEnd item) payload =
        (upTo item part.length ⟨0, part⟩).bind fun (values, _) => .ok (values, payload) := by
      cases hread : upTo item part.length ⟨0, part⟩ <;>
        simp [within, untilEnd, hread, Except.bind] <;> rfl
    rw [hlift]
    cases hread : upTo item part.length ⟨0, part⟩ with
    | error error => simp [Except.bind]
    | ok read =>
        obtain ⟨others, last⟩ := read
        simp [Except.bind]
  have hread (last : Payload) :
      upTo item part.length ⟨0, part⟩ = .ok (values, last) ↔
        (∀ value ∈ values, valid value) ∧ part = values.flatMap encode ∧
          last = ⟨0 + part.length, []⟩ :=
    upTo_eq_ok_iff hitem hsome (le_refl part.length) values
  simp only [hwithin, hread]
  constructor
  · rintro ⟨last, ⟨hvalid, hpart, -⟩, rfl⟩
    exact ⟨[], ⟨hvalid, hpart, rfl⟩, rfl, rfl⟩
  · rintro ⟨octets, ⟨hvalid, hpart, rfl⟩, hrest, hoffset⟩
    refine ⟨_, ⟨hvalid, hpart, rfl⟩, ?_⟩
    cases payload
    cases after
    simp_all

end Rows

/-- A whole payload is read if it spells a value and nothing stands behind it. -/
theorem Payload.run_eq_ok_iff {α : Type} {item : Parse α} {spells : α → List UInt8 → Prop}
    (hitem : item.Reads spells) (functionCode : UInt8) (octets : List UInt8) (value : α) :
    run item functionCode octets = .ok value ↔ spells value octets := by
  have hrun : run item functionCode octets = .ok value ↔
      ∃ after, item ⟨0, octets⟩ = .ok (value, after) ∧ after.rest = [] := by
    cases hread : item ⟨0, octets⟩ with
    | error error => simp [run, hread, bind, Except.bind]
    | ok read =>
        obtain ⟨other, after⟩ := read
        obtain ⟨offset, rest⟩ := after
        cases rest <;> simp [run, hread, finish, bind, Except.bind, Pure.pure, Except.pure]
  rw [hrun]
  constructor
  · rintro ⟨after, hread, hrest⟩
    obtain ⟨taken, htaken, hsplit, -⟩ := (hitem _ _ _).mp hread
    rw [hrest, List.append_nil] at hsplit
    rw [← hsplit] at htaken
    exact htaken
  · intro hspells
    exact ⟨⟨octets.length, []⟩,
      (hitem _ _ _).mpr ⟨octets, hspells, by simp, by simp⟩, rfl⟩

end Modbus
