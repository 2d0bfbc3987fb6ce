import Mathlib.Tactic
import Modbus.Proofs.ResponseCodec
import Modbus.Proofs.TransactionOutcome

/-!
# Octets that are no answer

What cannot be read as an answer is refused with a protocol error, and the master tries again.
Two checks blame an argument instead: they are shared with the reader of requests, where an
argument is to blame.  One looks at the word of a coil, the other at the reference type of
a span of a file.  Each step of the reader is described by the octets on which it blames an
argument, and so is the whole reader: nothing but these two checks is ever final.
-/

namespace Modbus

open Payload

/-! ## Steps that fail -/

theorem Parse.bind_eq_error_iff {α β : Type} {item : Parse α} {next : α → Parse β}
    {payload : Payload} {error : Error} :
    (item >>= next) payload = .error error ↔
      item payload = .error error ∨
        ∃ value between, item payload = .ok (value, between) ∧
          next value between = .error error := by
  have hbind : (item >>= next) payload =
      (item payload).bind fun read => next read.1 read.2 := rfl
  rw [hbind]
  cases hfirst : item payload with
  | error error => simp [Except.bind]
  | ok read =>
      obtain ⟨value, between⟩ := read
      simp [Except.bind]

/-- An error of `item` is about the message or blames an argument, and it blames an argument
exactly in front of those octets that `blames` tells. -/
structure Parse.Faults {α : Type} (item : Parse α)
    (blames : ArgumentFault → List UInt8 → Prop) : Prop where
  kinds : ∀ {payload : Payload} {error : Error}, item payload = .error error →
    (∃ fault, error = .protocol fault) ∨ ∃ fault, error = .invalidArgument fault
  blamed : ∀ (payload : Payload) (fault : ArgumentFault),
    item payload = .error (.invalidArgument fault) ↔ blames fault payload.rest

/-- Every error of `item` is about the message. -/
abbrev Parse.Blameless {α : Type} (item : Parse α) : Prop :=
  item.Faults fun _ _ => False

namespace Parse.Faults

variable {α β : Type} {item : Parse α} {next : α → Parse β} {spells : α → List UInt8 → Prop}
  {blames : ArgumentFault → List UInt8 → Prop}

theorem congr {others : ArgumentFault → List UInt8 → Prop} (hitem : item.Faults blames)
    (hsame : ∀ fault octets, blames fault octets ↔ others fault octets) :
    item.Faults others where
  kinds := hitem.kinds
  blamed payload fault := (hitem.blamed payload fault).trans (hsame fault payload.rest)

theorem of_protocol
    (hitem : ∀ payload error, item payload = .error error → ∃ fault, error = .protocol fault) :
    item.Blameless where
  kinds herror := .inl (hitem _ _ herror)
  blamed payload fault := by
    constructor
    · intro herror
      obtain ⟨other, hother⟩ := hitem _ _ herror
      contradiction
    · exact False.elim

theorem pure (value : α) : (Pure.pure value : Parse α).Blameless :=
  of_protocol fun payload error herror => by
    have hok : (Except.ok (value, payload) : Except Error (α × Payload)) = .error error := herror
    contradiction

theorem bind {others : α → ArgumentFault → List UInt8 → Prop} (hitem : item.Faults blames)
    (hreads : item.Reads spells) (hnext : ∀ value, (next value).Faults (others value)) :
    (item >>= next).Faults fun fault octets =>
      blames fault octets ∨ ∃ value front back, spells value front ∧ octets = front ++ back ∧
        others value fault back where
  kinds herror := by
    rcases Parse.bind_eq_error_iff.mp herror with hfirst | ⟨value, between, -, hsecond⟩
    · exact hitem.kinds hfirst
    · exact (hnext value).kinds hsecond
  blamed payload fault := by
    rw [Parse.bind_eq_error_iff, hitem.blamed]
    refine or_congr_right ⟨?_, ?_⟩
    · rintro ⟨value, between, hfirst, hsecond⟩
      obtain ⟨front, hfront, hrest, -⟩ := (hreads payload between value).mp hfirst
      exact ⟨value, front, between.rest, hfront, hrest,
        ((hnext value).blamed between fault).mp hsecond⟩
    · rintro ⟨value, front, back, hfront, hrest, hback⟩
      refine ⟨value, ⟨payload.offset + front.length, back⟩, ?_, ?_⟩
      · exact (hreads _ _ _).mpr ⟨front, hfront, hrest, rfl⟩
      · exact ((hnext value).blamed _ fault).mpr hback

theorem bind_blameless (hitem : item.Blameless) (hnext : ∀ value, (next value).Blameless) :
    (item >>= next).Blameless :=
  of_protocol fun payload error herror => by
    rcases Parse.bind_eq_error_iff.mp herror with hfirst | ⟨value, between, -, hsecond⟩
    · exact (hitem.kinds hfirst).resolve_right fun ⟨fault, hfault⟩ =>
        (hitem.blamed payload fault).mp (hfault ▸ hfirst)
    · exact ((hnext value).kinds hsecond).resolve_right fun ⟨fault, hfault⟩ =>
        ((hnext value).blamed between fault).mp (hfault ▸ hsecond)

/-- A step that is not taken if `refused` holds; the message is to blame for that. -/
theorem guarded {refused : Prop} [Decidable refused] {reason : ProtocolFault}
    {skipped : PUnit → Parse α} (hitem : item.Faults blames) :
    (if refused then (throw (.protocol reason) : Parse PUnit) >>= skipped else item).Faults
      fun fault octets => ¬refused ∧ blames fault octets := by
  by_cases hrefused : refused
  · rw [if_pos hrefused]
    refine (of_protocol fun payload error herror => ?_).congr fun fault octets => by
      simp [hrefused]
    have hthrown : (Except.error (.protocol reason) : Except Error (α × Payload)) = .error error :=
      herror
    exact ⟨reason, (Except.error.inj hthrown).symm⟩
  · rw [if_neg hrefused]
    exact hitem.congr fun fault octets => by simp [hrefused]

theorem within (hitem : item.Faults blames) (part : List UInt8) :
    (Payload.within part item).Faults fun fault _ => blames fault part := by
  have hwithin (payload : Payload) (error : Error) :
      Payload.within part item payload = .error error ↔ item ⟨0, part⟩ = .error error := by
    have hlift : Payload.within part item payload =
        (item ⟨0, part⟩).bind fun read => .ok (read.1, payload) := by
      cases hread : item ⟨0, part⟩ <;> simp [Payload.within, hread, Except.bind] <;> rfl
    rw [hlift]
    cases hread : item ⟨0, part⟩ <;> simp [Except.bind]
  exact
    { kinds := fun herror => hitem.kinds ((hwithin _ _).mp herror)
      blamed := fun payload fault => (hwithin _ _).trans (hitem.blamed ⟨0, part⟩ fault) }

end Parse.Faults

/-! ## Fields that are cut short -/

namespace Payload

theorem blameless_octets (count : Nat) : (octets count).Blameless :=
  .of_protocol fun payload error herror => by
    unfold octets at herror
    split at herror
    · exact ⟨_, (Except.error.inj herror).symm⟩
    · contradiction

theorem blameless_octet : octet.Blameless :=
  .of_protocol fun payload error herror => by
    unfold octet at herror
    split at herror
    · exact ⟨_, (Except.error.inj herror).symm⟩
    · contradiction

theorem blameless_word : word.Blameless :=
  .of_protocol fun payload error herror => by
    unfold word at herror
    split at herror
    · contradiction
    · exact ⟨_, (Except.error.inj herror).symm⟩

theorem blameless_words (count : Nat) : (words count).Blameless := by
  induction count with
  | zero => exact .pure []
  | succ count ih =>
      exact .bind_blameless blameless_word fun value =>
        .bind_blameless ih fun values => .pure (value :: values)

/-- Items that are read until nothing is left fail at the first one that does, behind others that
can be read. -/
theorem upTo_eq_error_iff {α : Type} {item : Parse α} {valid : α → Prop} {encode : α → List UInt8}
    (hitem : item.Reads fun value octets => valid value ∧ octets = encode value)
    (hsome : ∀ value, encode value ≠ []) {bound : Nat} {payload : Payload}
    (hbound : payload.rest.length ≤ bound) (error : Error) :
    upTo item bound payload = .error error ↔
      ∃ (values : List α) (back : List UInt8), (∀ value ∈ values, valid value) ∧
        payload.rest = values.flatMap encode ++ back ∧ back ≠ [] ∧
        item ⟨payload.offset + (values.flatMap encode).length, back⟩ = .error error := by
  induction bound generalizing payload with
  | zero =>
      have hread : upTo item 0 payload = .ok ([], payload) := rfl
      rw [hread]
      refine iff_of_false (fun herror => by contradiction) ?_
      rintro ⟨values, back, -, hsplit, hback, -⟩
      have hrest : payload.rest = [] := List.length_eq_zero_iff.mp (Nat.le_zero.mp hbound)
      exact hback (List.append_eq_nil_iff.mp (hsplit.symm.trans hrest)).2
  | succ bound ih =>
      obtain ⟨offset, rest⟩ := payload
      cases rest with
      | nil =>
          have hread : upTo item (bound + 1) ⟨offset, []⟩ = .ok ([], ⟨offset, []⟩) := rfl
          rw [hread]
          refine iff_of_false (fun herror => by contradiction) ?_
          rintro ⟨values, back, -, hsplit, hback, -⟩
          exact hback (List.append_eq_nil_iff.mp hsplit.symm).2
      | cons first rest =>
          have hread : upTo item (bound + 1) ⟨offset, first :: rest⟩ =
              (item >>= fun value => upTo item bound >>= fun values =>
                Pure.pure (value :: values)) ⟨offset, first :: rest⟩ := rfl
          have hothers (value : α) (between : Payload) :
              (upTo item bound >>= fun values => Pure.pure (value :: values)) between =
                .error error ↔ upTo item bound between = .error error := by
            rw [Parse.bind_eq_error_iff, or_iff_left]
            rintro ⟨values, after, -, hpure⟩
            contradiction
          have hshorter {value : α} {back : List UInt8}
              (hsplit : first :: rest = encode value ++ back) : back.length ≤ bound := by
            have hlength := congrArg List.length hsplit
            have hpositive := List.length_pos_iff.mpr (hsome value)
            rw [List.length_append] at hlength
            simp only at hbound
            omega
          rw [hread, Parse.bind_eq_error_iff]
          -- Either the first item fails, or it is read and stands in front of the others.
          constructor
          · rintro (hfirst | ⟨value, ⟨offset', back⟩, hfirst, hlater⟩)
            · exact ⟨[], first :: rest, by simp, rfl, by simp, hfirst⟩
            · obtain ⟨_, ⟨hvalue, rfl⟩, hsplit, rfl⟩ := (hitem _ _ _).mp hfirst
              obtain ⟨values, last, hvalues, rfl, hlast, herror⟩ :=
                (ih (hshorter hsplit)).mp ((hothers _ _).mp hlater)
              refine ⟨value :: values, last, List.forall_mem_cons.mpr ⟨hvalue, hvalues⟩, ?_, hlast,
                ?_⟩
              · rw [List.flatMap_cons, List.append_assoc]
                exact hsplit
              · rw [List.flatMap_cons, List.length_append, ← Nat.add_assoc]
                exact herror
          · rintro ⟨values, last, hvalues, hsplit, hlast, herror⟩
            cases values with
            | nil =>
                obtain rfl : first :: rest = last := hsplit
                exact .inl herror
            | cons value values =>
                obtain ⟨hvalue, hvalues⟩ := List.forall_mem_cons.mp hvalues
                simp only [List.flatMap_cons, List.append_assoc, List.length_append,
                  ← Nat.add_assoc] at hsplit herror
                refine .inr ⟨value, ⟨offset + (encode value).length,
                  values.flatMap encode ++ last⟩, (hitem _ _ _).mpr ⟨_, ⟨hvalue, rfl⟩, hsplit, rfl⟩,
                  (hothers _ _).mpr ((ih (hshorter hsplit)).mpr ?_)⟩
                exact ⟨values, last, hvalues, rfl, hlast, herror⟩

theorem faults_untilEnd {α : Type} {item : Parse α} {valid : α → Prop} {encode : α → List UInt8}
    {blames : ArgumentFault → List UInt8 → Prop}
    (hitem : item.Reads fun value octets => valid value ∧ octets = encode value)
    (hfaults : item.Faults blames) (hsome : ∀ value, encode value ≠ []) :
    (untilEnd item).Faults fun fault octets =>
      ∃ (values : List α) (back : List UInt8), (∀ value ∈ values, valid value) ∧
        octets = values.flatMap encode ++ back ∧ back ≠ [] ∧ blames fault back where
  kinds {payload error} herror := by
    obtain ⟨values, back, -, -, -, hback⟩ :=
      (upTo_eq_error_iff hitem hsome le_rfl error).mp herror
    exact hfaults.kinds hback
  blamed payload fault := by
    have hread := upTo_eq_error_iff hitem hsome (le_refl payload.rest.length)
      (.invalidArgument fault)
    simp only [hfaults.blamed] at hread
    exact hread

/-- A whole payload blames an argument exactly where its reader does: octets that are left behind
make it a fault of the message. -/
theorem run_fault {α : Type} {item : Parse α} {blames : ArgumentFault → List UInt8 → Prop}
    (hitem : item.Faults blames) (functionCode : UInt8) (octets : List UInt8) :
    (∀ error, run item functionCode octets = .error error →
      (∃ fault, error = .protocol fault) ∨ ∃ fault, error = .invalidArgument fault) ∧
    ∀ fault, run item functionCode octets = .error (.invalidArgument fault) ↔
      blames fault octets := by
  have hrun (error : Error) (herror : run item functionCode octets = .error error) :
      item ⟨0, octets⟩ = .error error ∨ ∃ fault, error = .protocol fault := by
    cases hread : item ⟨0, octets⟩ with
    | error other =>
        simp only [run, hread, bind, Except.bind, Except.error.injEq] at herror
        rw [herror]
        exact .inl rfl
    | ok read =>
        obtain ⟨value, offset, rest⟩ := read
        cases rest with
        | nil => simp [run, hread, finish, bind, Except.bind, Pure.pure, Except.pure] at herror
        | cons first rest =>
            simp only [run, hread, finish, bind, Except.bind] at herror
            exact .inr ⟨_, (Except.error.inj herror).symm⟩
  constructor
  · intro error herror
    rcases hrun error herror with hfirst | hprotocol
    · exact hitem.kinds hfirst
    · exact .inl hprotocol
  · intro fault
    rw [← hitem.blamed ⟨0, octets⟩ fault]
    constructor
    · intro herror
      rcases hrun _ herror with hfirst | ⟨other, hother⟩
      · exact hfirst
      · cases hother
    · intro hread
      simp only [run, hread, bind, Except.bind]

end Payload

/-! ## Answers -/

theorem faults_coilOfWord (word : UInt16) :
    (monadLift (coilOfWord word) : Parse Bool).Faults fun fault _ =>
      word ≠ 0xFF00 ∧ word ≠ 0 ∧ fault = .coilValue word := by
  unfold coilOfWord
  split_ifs with hset hcleared
  · exact (Parse.Faults.pure true).congr fun fault octets => by simp [hset]
  · exact (Parse.Faults.pure false).congr fun fault octets => by simp [hcleared]
  · exact
      { kinds := fun herror => .inr ⟨_, (Except.error.inj herror).symm⟩
        blamed := fun payload fault => by
          have hlift : (monadLift (Except.error (.invalidArgument (.coilValue word)) :
              Except Error Bool) : Parse Bool) payload =
                .error (.invalidArgument (.coilValue word)) := rfl
          rw [hlift]
          simp [hset, hcleared, eq_comm] }

theorem faults_checkReferenceType (type : UInt8) :
    (monadLift (checkReferenceType type) : Parse Unit).Faults fun fault _ =>
      type ≠ fileReferenceType ∧ fault = .referenceType type := by
  unfold checkReferenceType
  split_ifs with htype
  · exact (Parse.Faults.pure ()).congr fun fault octets => by simp [htype]
  · exact
      { kinds := fun herror => .inr ⟨_, (Except.error.inj herror).symm⟩
        blamed := fun payload fault => by
          have hlift : (monadLift (Except.error (.invalidArgument (.referenceType type)) :
              Except Error Unit) : Parse Unit) payload =
                .error (.invalidArgument (.referenceType type)) := rfl
          rw [hlift]
          simp [htype, eq_comm] }

namespace FileAnswer

theorem faults_parse :
    FileAnswer.parse.Faults fun fault octets =>
      ∃ length type rest, octets = length :: type :: rest ∧ length.toNat % 2 = 1 ∧
        type ≠ fileReferenceType ∧ fault = .referenceType type := by
  unfold FileAnswer.parse
  refine (Payload.blameless_octet.bind Payload.reads_octet fun length =>
    (Payload.blameless_octet.bind Payload.reads_octet fun type =>
      (faults_checkReferenceType type).bind (Parse.Reads.check _) fun _ =>
      Payload.blameless_words _).guarded).congr ?_
  intro fault octets
  simp

end FileAnswer

theorem RecordData.faults_parse :
    RecordData.parse.Faults fun fault octets =>
      ∃ type rest, octets = type :: rest ∧ type ≠ fileReferenceType ∧
        fault = .referenceType type := by
  unfold RecordData.parse
  refine (Payload.blameless_octet.bind Payload.reads_octet fun type =>
    (faults_checkReferenceType type).bind (Parse.Reads.check _) fun _ =>
    .bind_blameless Payload.blameless_word fun file =>
    .bind_blameless Payload.blameless_word fun record =>
    .bind_blameless Payload.blameless_word fun length =>
    .bind_blameless (Payload.blameless_words _) fun values => .pure _).congr ?_
  intro fault octets
  simp

theorem Payload.faults_counted {α : Type} {item : Parse α} {valid : α → Prop}
    {encode : α → List UInt8} {blames : ArgumentFault → List UInt8 → Prop}
    (hitem : item.Reads fun value octets => valid value ∧ octets = encode value)
    (hfaults : item.Faults blames) (hsome : ∀ value, encode value ≠ []) :
    (octet >>= fun size => octets size.toNat >>= fun part => within part (untilEnd item)).Faults
      fun fault payload => ∃ (size : UInt8) (values : List α) (back rest : List UInt8),
        payload = size :: (values.flatMap encode ++ back ++ rest) ∧
        (values.flatMap encode ++ back).length = size.toNat ∧ (∀ value ∈ values, valid value) ∧
        back ≠ [] ∧ blames fault back := by
  refine (blameless_octet.bind reads_octet fun size =>
    (blameless_octets size.toNat).bind (reads_octets size.toNat) fun part =>
    (faults_untilEnd hitem hfaults hsome).within part).congr ?_
  intro fault payload
  constructor
  · rintro (hnone | ⟨size, _, _, rfl, rfl, hnone | ⟨part, _, rest, ⟨rfl, hsize⟩, rfl, values, back,
      hvalues, rfl, hback, hblames⟩⟩)
    · contradiction
    · contradiction
    · exact ⟨size, values, back, rest, rfl, hsize, hvalues, hback, hblames⟩
  · rintro ⟨size, values, back, rest, rfl, hsize, hvalues, hback, hblames⟩
    exact .inr ⟨size, [size], _, rfl, rfl, .inr ⟨values.flatMap encode ++ back, _, rest,
      ⟨rfl, hsize⟩, rfl, values, back, hvalues, rfl, hback, hblames⟩⟩

theorem Parse.Faults.built {α β : Type} {item : Parse α}
    {blames : ArgumentFault → List UInt8 → Prop} (hitem : item.Faults blames) (build : α → β) :
    (item >>= fun value => Pure.pure (build value)).Faults blames := by
  have hbuilt (payload : Payload) (error : Error) :
      (item >>= fun value => Pure.pure (build value)) payload = .error error ↔
        item payload = .error error := by
    rw [Parse.bind_eq_error_iff, or_iff_left]
    rintro ⟨value, between, -, hpure⟩
    contradiction
  exact
    { kinds := fun herror => hitem.kinds ((hbuilt _ _).mp herror)
      blamed := fun payload fault => (hbuilt _ _).trans (hitem.blamed payload fault) }

namespace Response

/-- Octets with the shape of an answer that hold a word or a type which stands for nothing, and the
argument that is blamed for it. -/
inductive Misspelt : List UInt8 → ArgumentFault → Prop where
  /-- The echo of a written coil shows neither of its two states. -/
  | coil {reference word : UInt16} {rest : List UInt8} (hset : word ≠ 0xFF00)
      (hcleared : word ≠ 0) :
      Misspelt (Function.writeSingleCoil.code :: (Words.toOctets [reference, word] ++ rest))
        (.coilValue word)
  /-- Behind some spans that were read from files, one has another reference type. -/
  | spanRead {size length type : UInt8} {records : List (List UInt16)} {back rest : List UInt8}
      (hsize : (records.flatMap FileAnswer.encode ++ length :: type :: back).length = size.toNat)
      (hlength : length.toNat % 2 = 1) (htype : type ≠ fileReferenceType) :
      Misspelt (Function.readFileRecord.code :: size ::
        (records.flatMap FileAnswer.encode ++ length :: type :: back ++ rest))
        (.referenceType type)
  /-- The same in the echo of spans that were written. -/
  | spanWritten {size type : UInt8} {records : List RecordData} {back rest : List UInt8}
      (hsize : (records.flatMap RecordData.encode ++ type :: back).length = size.toNat)
      (htype : type ≠ fileReferenceType) :
      Misspelt (Function.writeFileRecord.code :: size ::
        (records.flatMap RecordData.encode ++ type :: back ++ rest))
        (.referenceType type)

theorem faults_writeSingleCoil :
    (parse .writeSingleCoil).Faults fun fault payload =>
      Misspelt (Function.writeSingleCoil.code :: payload) fault := by
  simp only [parse]
  refine (Payload.blameless_word.bind Payload.reads_word fun reference =>
    Payload.blameless_word.bind Payload.reads_word fun word =>
    (faults_coilOfWord word).built (writeSingleCoil reference)).congr ?_
  intro fault payload
  constructor
  · rintro (hnone | ⟨reference, _, _, rfl, rfl, hnone | ⟨word, _, rest, rfl, rfl, hset, hcleared,
      rfl⟩⟩)
    · contradiction
    · contradiction
    · have hmisspelt := @Misspelt.coil reference word rest hset hcleared
      simpa using hmisspelt
  · intro hmisspelt
    generalize hoctets : Function.writeSingleCoil.code :: payload = octets at hmisspelt
    cases hmisspelt with
    | @coil reference word rest hset hcleared =>
        obtain ⟨-, rfl⟩ := List.cons.inj hoctets
        exact .inr ⟨reference, _, Word.toOctets word ++ rest, rfl, by simp,
          .inr ⟨word, _, rest, rfl, rfl, hset, hcleared, rfl⟩⟩
    | spanRead => exact absurd (List.cons.inj hoctets).1 (by decide)
    | spanWritten => exact absurd (List.cons.inj hoctets).1 (by decide)

theorem faults_readFileRecord :
    (parse .readFileRecord).Faults fun fault payload =>
      Misspelt (Function.readFileRecord.code :: payload) fault := by
  have hsome (values : List UInt16) : FileAnswer.encode values ≠ [] := by
    simp [FileAnswer.encode]
  have hparse : parse .readFileRecord = (Payload.octet >>= fun size =>
      Payload.octets size.toNat >>= fun part =>
        Payload.within part (Payload.untilEnd FileAnswer.parse)) >>= fun records =>
      pure (readFileRecord records) := by
    simp only [parse, bind_assoc]
  rw [hparse]
  refine ((Payload.faults_counted FileAnswer.reads_parse FileAnswer.faults_parse hsome).built
    readFileRecord).congr ?_
  intro fault payload
  constructor
  · rintro ⟨size, records, _, rest, rfl, hsize, -, -, length, type, back, rfl, hlength, htype, rfl⟩
    exact .spanRead hsize hlength htype
  · intro hmisspelt
    generalize hoctets : Function.readFileRecord.code :: payload = octets at hmisspelt
    cases hmisspelt with
    | coil => exact absurd (List.cons.inj hoctets).1 (by decide)
    | @spanRead size length type records back rest hsize hlength htype =>
        obtain ⟨-, rfl⟩ := List.cons.inj hoctets
        refine ⟨size, records, _, rest, rfl, hsize, fun values hvalues => ?_, by simp, length, type,
          back, rfl, hlength, htype, rfl⟩
        have hbound := size.toNat_lt
        have hpart := FileAnswer.size_le_dataSize hvalues
        rw [List.length_append, FileAnswer.length_flatMap_encode] at hsize
        omega
    | spanWritten => exact absurd (List.cons.inj hoctets).1 (by decide)

theorem faults_writeFileRecord :
    (parse .writeFileRecord).Faults fun fault payload =>
      Misspelt (Function.writeFileRecord.code :: payload) fault := by
  have hsome (data : RecordData) : data.encode ≠ [] := by
    simp [RecordData.encode]
  refine ((Payload.faults_counted RecordData.reads_parse RecordData.faults_parse hsome).built
    writeFileRecord).congr ?_
  intro fault payload
  constructor
  · rintro ⟨size, records, _, rest, rfl, hsize, -, -, type, back, rfl, htype, rfl⟩
    exact .spanWritten hsize htype
  · intro hmisspelt
    generalize hoctets : Function.writeFileRecord.code :: payload = octets at hmisspelt
    cases hmisspelt with
    | coil => exact absurd (List.cons.inj hoctets).1 (by decide)
    | spanRead => exact absurd (List.cons.inj hoctets).1 (by decide)
    | @spanWritten size type records back rest hsize htype =>
        obtain ⟨-, rfl⟩ := List.cons.inj hoctets
        refine ⟨size, records, _, rest, rfl, hsize, fun data hdata => ?_, by simp, type, back, rfl,
          htype, rfl⟩
        have hbound := size.toNat_lt
        have hpart := RecordData.size_le_dataSize hdata
        rw [List.length_append, RecordData.length_flatMap_encode] at hsize
        omega

theorem not_misspelt {code : UInt8} (hcoil : code ≠ Function.writeSingleCoil.code)
    (hread : code ≠ Function.readFileRecord.code) (hwritten : code ≠ Function.writeFileRecord.code)
    (payload : List UInt8) (fault : ArgumentFault) : ¬Misspelt (code :: payload) fault := by
  intro hmisspelt
  generalize hoctets : code :: payload = octets at hmisspelt
  cases hmisspelt with
  | coil => exact hcoil (List.cons.inj hoctets).1
  | spanRead => exact hread (List.cons.inj hoctets).1
  | spanWritten => exact hwritten (List.cons.inj hoctets).1

theorem blameless_parseBits : parseBits.Blameless :=
  .bind_blameless Payload.blameless_octet fun bytes =>
    .bind_blameless (Payload.blameless_octets bytes.toNat) fun _ => .pure _

theorem blameless_parseRegisters : parseRegisters.Blameless :=
  .bind_blameless Payload.blameless_octet fun bytes =>
    ((Payload.blameless_words (bytes.toNat / 2)).guarded).congr fun fault octets => by simp

theorem blameless_readFifoQueue : (parse .readFifoQueue).Blameless := by
  simp only [parse]
  exact .bind_blameless Payload.blameless_word fun bytes =>
    .bind_blameless Payload.blameless_word fun count =>
      (((Payload.blameless_words count.toNat).built readFifoQueue).guarded).congr
        fun fault octets => by simp

theorem blameless_words_of {function : Function}
    (hfunction : function = .writeSingleRegister ∨ function = .writeMultipleCoils ∨
      function = .writeMultipleRegisters ∨ function = .maskWriteRegister) :
    (parse function).Blameless := by
  rcases hfunction with rfl | rfl | rfl | rfl
  · exact .bind_blameless Payload.blameless_word fun reference =>
      Payload.blameless_word.built (writeSingleRegister reference)
  · exact .bind_blameless Payload.blameless_word fun reference =>
      Payload.blameless_word.built (writeMultipleCoils reference)
  · exact .bind_blameless Payload.blameless_word fun reference =>
      Payload.blameless_word.built (writeMultipleRegisters reference)
  · exact .bind_blameless Payload.blameless_word fun reference =>
      .bind_blameless Payload.blameless_word fun andMask =>
        Payload.blameless_word.built (maskWriteRegister reference andMask)

/-- The reader of a function blames an argument for misspelt answers, and for nothing else. -/
theorem faults_parse (function : Function) :
    (parse function).Faults fun fault payload => Misspelt (function.code :: payload) fault := by
  have hblameless (hreader : (parse function).Blameless)
      (hcoil : function.code ≠ Function.writeSingleCoil.code)
      (hread : function.code ≠ Function.readFileRecord.code)
      (hwritten : function.code ≠ Function.writeFileRecord.code) :
      (parse function).Faults fun fault payload => Misspelt (function.code :: payload) fault :=
    hreader.congr fun fault payload =>
      (iff_of_false (not_misspelt hcoil hread hwritten payload fault) id).symm
  cases function with
  | writeSingleCoil => exact faults_writeSingleCoil
  | readFileRecord => exact faults_readFileRecord
  | writeFileRecord => exact faults_writeFileRecord
  | readCoils =>
      exact hblameless (blameless_parseBits.built _) (by decide) (by decide) (by decide)
  | readDiscreteInputs =>
      exact hblameless (blameless_parseBits.built _) (by decide) (by decide) (by decide)
  | readHoldingRegisters =>
      exact hblameless (blameless_parseRegisters.built _) (by decide) (by decide) (by decide)
  | readInputRegisters =>
      exact hblameless (blameless_parseRegisters.built _) (by decide) (by decide) (by decide)
  | readWriteMultipleRegisters =>
      exact hblameless (blameless_parseRegisters.built _) (by decide) (by decide) (by decide)
  | readFifoQueue =>
      exact hblameless blameless_readFifoQueue (by decide) (by decide) (by decide)
  | _ => exact hblameless (blameless_words_of (by simp)) (by decide) (by decide) (by decide)

/-- Octets that are no answer are a fault of the message, unless they are misspelt; then an
argument is blamed. -/
theorem decode_fault (octets : List UInt8) :
    (∀ error, decode octets = .error error →
      (∃ fault, error = .protocol fault) ∨ ∃ fault, error = .invalidArgument fault) ∧
    ∀ fault, decode octets = .error (.invalidArgument fault) ↔ Misspelt octets fault := by
  cases octets with
  | nil =>
      refine ⟨fun error herror => .inl ⟨_, (Except.error.inj herror).symm⟩, fun fault => ?_⟩
      exact iff_of_false (fun herror => by cases herror) fun hmisspelt => by cases hmisspelt
  | cons code payload =>
      cases hexception : isExceptionCode code with
      | true =>
          have hread : decode (code :: payload) =
              Payload.run (parseException code) code payload := by
            simp only [decode, hexception, if_true]
          have hblameless : (parseException code).Blameless :=
            Payload.blameless_octet.built fun reason => refusal code (ExceptionCode.ofOctet reason)
          have hother (function : Function) : code ≠ function.code := fun hsame => by
            rw [hsame, isExceptionCode_code] at hexception
            contradiction
          obtain ⟨hkinds, hblamed⟩ := Payload.run_fault hblameless code payload
          rw [hread]
          exact ⟨hkinds, fun fault => (hblamed fault).trans (iff_of_false id
            (not_misspelt (hother _) (hother _) (hother _) payload fault))⟩
      | false =>
          cases hcode : Function.ofCode? code with
          | none =>
              have hread : decode (code :: payload) =
                  .error (.protocol (.unknownResponse code)) := by
                simp [decode, hexception, hcode]
              have hother (function : Function) : code ≠ function.code := fun hsame => by
                rw [hsame, Function.ofCode?_code] at hcode
                contradiction
              rw [hread]
              refine ⟨fun error herror => .inl ⟨_, (Except.error.inj herror).symm⟩, fun fault => ?_⟩
              exact iff_of_false (fun herror => by cases herror)
                (not_misspelt (hother _) (hother _) (hother _) payload fault)
          | some function =>
              have hread : decode (code :: payload) =
                  Payload.run (parse function) code payload := by
                simp [decode, hexception, hcode]
              rw [hread, ← Function.code_of_ofCode? hcode]
              exact Payload.run_fault (faults_parse function) function.code payload

end Response

/-! ## What a master makes of it -/

namespace Transaction

open Response (Misspelt)

section

variable {σ : Type} {policy : Policy} {connection : Connection σ} {request : Message Request}
  {state after : σ} {error : Error}

/-- An attempt that failed because of the message is followed by another one, on the connection as
it is, or exhausts the transaction. -/
theorem attempts_of_protocol {fault : ProtocolFault}
    (hattempt : attempt connection request state = (.error (.protocol fault), after))
    (spare made : Nat) :
    attempts policy connection request spare made state =
      match spare with
      | 0 => (.error (.retriesExhausted (made + 1) (.protocol fault)), after)
      | spare + 1 => attempts policy connection request spare (made + 1) after := by
  rw [attempts, hattempt]
  rfl

theorem attempts_of_invalidArgument {fault : ArgumentFault}
    (hattempt : attempt connection request state = (.error (.invalidArgument fault), after))
    (spare made : Nat) :
    attempts policy connection request spare made state =
      (.error (.invalidArgument fault), after) := by
  rw [attempts, hattempt]
  rfl

end

/-- An open connection on which a coil is set: the first answer is the given one, the second one is
right. -/
def garbledFirst (garbled : List UInt8) : Scripted.State where
  connected := true
  headless := false
  connects := []
  replies := [.answers garbled none none, .answers [5, 0, 0, 0xFF, 0] none none]
  events := []

def settingCoil : Message Request := ⟨⟨7, 0, 1⟩, .writeSingleCoil 0 true⟩

/-- An attempt whose answer cannot be read is repeated as long as attempts are left, and its error
is one of the message: unless the answer is misspelt, and only then.  The error of a misspelt answer
blames an argument and is reported at once. -/
theorem unreadable_answer_repeated {octets : List UInt8} {error : Error}
    (hrefused : Response.decode octets = .error error) {σ : Type} (policy : Policy)
    {connection : Connection σ} {request : Message Request} {state after : σ}
    (hattempt : attempt connection request state = (.error error, after)) (spare made : Nat) :
    ((∀ fault, ¬Misspelt octets fault) ∧ (∃ fault, error = .protocol fault) ∧
      attempts policy connection request spare made state =
        match spare with
        | 0 => (.error (.retriesExhausted (made + 1) error), after)
        | spare + 1 => attempts policy connection request spare (made + 1) after) ∨
    ∃ fault, Misspelt octets fault ∧ error = .invalidArgument fault ∧
      attempts policy connection request spare made state = (.error error, after) := by
  obtain ⟨hkinds, hblamed⟩ := Response.decode_fault octets
  rcases hkinds error hrefused with ⟨fault, rfl⟩ | ⟨fault, rfl⟩
  · refine .inl ⟨fun other hmisspelt => ?_, ⟨fault, rfl⟩, attempts_of_protocol hattempt spare made⟩
    have hother := hrefused.symm.trans ((hblamed other).mpr hmisspelt)
    cases hother
  · exact .inr ⟨fault, (hblamed fault).mp hrefused, rfl,
      attempts_of_invalidArgument hattempt spare made⟩

/-- An answer that is cut short is followed by the second attempt, which brings the right one. -/
theorem unreadable_answer_repeated_cut_short :
    Response.decode [5, 0, 0] = .error (.protocol (.truncated 2 2 0)) ∧
      (attempt Scripted.connection settingCoil (garbledFirst [5, 0, 0])).1 =
        .error (.protocol (.truncated 2 2 0)) ∧
      (attempts .default Scripted.connection settingCoil 1 0 (garbledFirst [5, 0, 0])).1 =
        .ok ⟨⟨7, 0, 1⟩, .writeSingleCoil 0 true⟩ := by
  have hrefused : Response.decode [5, 0, 0] = .error (.protocol (.truncated 2 2 0)) := by decide
  have hattempt : attempt Scripted.connection settingCoil (garbledFirst [5, 0, 0]) =
      (.error (.protocol (.truncated 2 2 0)),
        (attempt Scripted.connection settingCoil (garbledFirst [5, 0, 0])).2) := by decide
  refine ⟨hrefused, congrArg Prod.fst hattempt, ?_⟩
  rcases unreadable_answer_repeated hrefused .default hattempt 1 0 with
    ⟨-, -, hrepeated⟩ | ⟨fault, -, hfault, -⟩
  · rw [hrepeated]
    decide
  · cases hfault

/-- The echo of a coil that shows neither state is no fault of the message, and the transaction
ends with it although four attempts are left. -/
theorem misspelt_answer_reported :
    (¬∀ octets error, Response.decode octets = .error error → ∃ fault, error = .protocol fault) ∧
      attempts .default Scripted.connection settingCoil 4 0
          (garbledFirst [5, 0, 0, 0x12, 0x34]) =
        (.error (.invalidArgument (.coilValue 0x1234)),
          { garbledFirst [5, 0, 0, 0x12, 0x34] with
            replies := [.answers [5, 0, 0, 0xFF, 0] none none]
            events := [.exchange settingCoil] }) := by
  refine ⟨fun hall => ?_, by decide⟩
  obtain ⟨fault, hfault⟩ := hall [5, 0, 0, 0x12, 0x34] (.invalidArgument (.coilValue 0x1234))
    (by decide)
  cases hfault

end Transaction

end Modbus
