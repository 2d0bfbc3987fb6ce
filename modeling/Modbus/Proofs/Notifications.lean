import Modbus.Proofs.Effects

/-!
# Who is told of a write, and in which order

An image forgets registrations of observers that have gone whenever it comes
across them, keeps those that it still has to tell from going, and gives up where
writes of observers nest too deep.  A ledger does none of that: it keeps every
registration until it is revoked.  What happens is said over ledgers, rule by
rule, and an image is shown to do the same.
-/

namespace Modbus

/-! ## Ledgers -/

/-- What the registers of an image hold and who watches them.  A registration stays until it
is revoked, whether its observer has gone or not. -/
structure Ledger where
  size : Nat
  cell? : TableKind → Nat → Option Nat
  react : Nat → Nat → UInt16 → Program
  value : Nat → UInt16
  registered : Nat → List Nat
  owned : Nat → Bool

/-- Something that happens when registers are written: a value is stored, an observer is called
for a register and sees a value there, the call of an observer returns. -/
inductive RegisterEvent where
  | stored (cell : Nat) (value : UInt16)
  | called (number cell : Nat) (seen : UInt16)
  | returned (number : Nat)
  deriving DecidableEq, Repr

def RegisterEvent.notice? : RegisterEvent → Option Notice
  | .called number _ seen => some ⟨number, seen⟩
  | .stored .. | .returned _ => none

/-- Something that is to be done: a program, an act that has a reply, a write, or the calls of
observers of a write, one after another. -/
inductive Job where
  | program (program : Program)
  | act (act : Act) (reply : Reply)
  | write (cell : Nat) (value : UInt16)
  | tell (cell : Nat) (numbers : List Nat)

namespace Ledger

def view (ledger : Ledger) : View := ⟨ledger.cell?, ledger.value⟩

def put (ledger : Ledger) (cell : Nat) (value : UInt16) (registered : List Nat) : Ledger :=
  -- The registers are the cells below the size; nothing else is written.
  if cell < ledger.size then
    { ledger with
      value := Function.update ledger.value cell value
      registered := Function.update ledger.registered cell registered }
  else ledger

def stored (ledger : Ledger) (cell : Nat) (value : UInt16) : Ledger :=
  ledger.put cell value (ledger.registered cell)

def watched (ledger : Ledger) (cell number : Nat) : Ledger :=
  ledger.put cell (ledger.value cell) (ledger.registered cell ++ [number])

def unwatched (ledger : Ledger) (cell number : Nat) : Ledger :=
  ledger.put cell (ledger.value cell) ((ledger.registered cell).filter (· != number))

def dropped (ledger : Ledger) (number : Nat) : Ledger :=
  { ledger with owned := Function.update ledger.owned number false }

theorem owned_dropped (ledger : Ledger) (number other : Nat) :
    (ledger.dropped number).owned other = if other = number then false else ledger.owned other :=
  Function.update_apply ..

/-- An observer is alive while its owner keeps it or a call of it is due or under way. -/
def alive (ledger : Ledger) (held : List Nat) (number : Nat) : Bool :=
  ledger.owned number || held.contains number

/-- The registrations with a register whose observers are alive, in the order in which they
were made. -/
def live (ledger : Ledger) (held : List Nat) (cell : Nat) : List Nat :=
  (ledger.registered cell).filter (ledger.alive held)

/-- How a job is done, what happens meanwhile and what the ledger says afterwards.  Calls of
`held` are under way or due when it begins. -/
inductive Runs : List Nat → Job → Ledger → List RegisterEvent → Ledger → Prop
  | done {held ledger} : Runs held (.program .done) ledger [] ledger
  | look {held next ledger events after} :
      Runs held (.program (next ledger.view)) ledger events after →
      Runs held (.program (.look next)) ledger events after
  | act {held act reply next ledger first between rest after} :
      Runs held (.act act reply) ledger first between →
      Runs held (.program (next reply)) between rest after →
      Runs held (.program (.act act next)) ledger (first ++ rest) after
  | write {held cell value ledger events after} :
      Runs held (.write cell value) ledger events after →
      Runs held (.act (.write cell value) .done) ledger events after
  | writeShort {held cell} {value : Int16} {ledger events after} :
      Runs held (.write cell value.toUInt16) ledger events after →
      Runs held (.act (.writeShort cell value) .done) ledger events after
  | writeOctets {held cell high low others ledger events after} :
      Runs held (.write cell (Word.ofOctets high low)) ledger events after →
      Runs held (.act (.writeOctets cell (high :: low :: others)) .done) ledger events after
  | fewOctets {held cell octets ledger} :
      octets.length < 2 →
      Runs held (.act (.writeOctets cell octets) (.refused (.registerOctets octets.length)))
        ledger [] ledger
  | update {held cell change ledger events after} :
      Runs held (.write cell (change (ledger.value cell))) ledger events after →
      Runs held (.act (.update cell change) (.previous (ledger.value cell))) ledger events after
  | watch {held cell number ledger} :
      Runs held (.act (.watch cell number) .done) ledger [] (ledger.watched cell number)
  | unwatch {held cell number ledger} :
      Runs held (.act (.unwatch cell number) .done) ledger [] (ledger.unwatched cell number)
  | count {held cell ledger} :
      Runs held (.act (.count cell) (.watchers (ledger.live held cell).length)) ledger [] ledger
  | drop {held number ledger} :
      Runs held (.act (.drop number) .done) ledger [] (ledger.dropped number)
  /-- The value is there before anybody is called; who is called is settled now. -/
  | stored {held cell value ledger events after} :
      Runs held (.tell cell ((ledger.stored cell value).live held cell))
        (ledger.stored cell value) events after →
      Runs held (.write cell value) ledger (.stored cell value :: events) after
  | nobody {held cell ledger} : Runs held (.tell cell []) ledger [] ledger
  /-- All that an observer does, with the calls that come of it, lies between its call and its
  return; the next one is called after that. -/
  | called {held cell number numbers ledger inner between rest after} :
      Runs (number :: numbers ++ held) (.program (ledger.react number cell (ledger.value cell)))
        ledger inner between →
      Runs held (.tell cell numbers) between rest after →
      Runs held (.tell cell (number :: numbers)) ledger
        (.called number cell (ledger.value cell) :: inner ++ .returned number :: rest) after

end Ledger

/-! ## Calls of a write -/

/-- Whom the calls reach that are not made during other calls; `depth` calls are under way. -/
def RegisterEvent.outermost : Nat → List RegisterEvent → List Nat
  | _, [] => []
  | depth, .stored .. :: rest => outermost depth rest
  | 0, .called number .. :: rest => number :: outermost 1 rest
  | depth + 1, .called .. :: rest => outermost (depth + 2) rest
  | depth, .returned _ :: rest => outermost (depth - 1) rest

namespace Ledger

open RegisterEvent

theorem Runs.outermost_inside {held : List Nat} {job : Job} {ledger after : Ledger}
    {events : List RegisterEvent} (hruns : Runs held job ledger events after) (depth : Nat)
    (rest : List RegisterEvent) :
    outermost (depth + 1) (events ++ rest) = outermost (depth + 1) rest := by
  induction hruns generalizing depth rest with
  | done | fewOctets | watch | unwatch | count | drop | nobody => rfl
  | look _ ih | write _ ih | writeShort _ ih | writeOctets _ ih | update _ ih => exact ih depth rest
  | act _ _ ihact ihrest => rw [List.append_assoc, ihact, ihrest]
  | stored _ ih => exact ih depth rest
  | called _ _ ihinner ihrest =>
      -- The call is one level further in, and its return comes back from there.
      simp only [List.cons_append, List.append_assoc, outermost]
      rw [ihinner]
      exact ihrest depth rest

theorem Runs.outermost_tell {held : List Nat} {cell : Nat} {numbers : List Nat}
    {ledger after : Ledger} {events : List RegisterEvent}
    (hruns : Runs held (.tell cell numbers) ledger events after) :
    outermost 0 events = numbers := by
  induction numbers generalizing ledger events with
  | nil =>
      cases hruns
      rfl
  | cons number numbers ih =>
      cases hruns with
      | called hinner hrest =>
          simp only [List.cons_append, outermost]
          rw [hinner.outermost_inside]
          exact congrArg (number :: ·) (ih hrest)

/-- A write stores its value and then makes one call for each registration that is alive, in
their order, each after the one before has returned. -/
theorem Runs.outermost_write {held : List Nat} {cell : Nat} {value : UInt16}
    {ledger after : Ledger} {events : List RegisterEvent}
    (hruns : Runs held (.write cell value) ledger events after) :
    ∃ calls, events = .stored cell value :: calls ∧
      outermost 0 calls = (ledger.stored cell value).live held cell := by
  cases hruns with
  | stored htell => exact ⟨_, rfl, htell.outermost_tell⟩

end Ledger

/-! ## What an image shows of a ledger -/

def Image.ledger (image : Image) : Ledger where
  size := image.registers.size
  cell? := image.view.cell?
  react number := (image.observers[number]?.map Watcher.react).getD fun _ _ => .done
  value := image.value
  registered cell := (image.register cell).watchers
  owned number := image.observers[number]?.any Watcher.owned

/-- An image has the observers of a ledger while calls of `held` are due or under way. -/
structure Image.ShowsWatchers (image : Image) (held : List Nat) (ledger : Ledger) : Prop where
  holds : image.held = held
  there : ∀ number ∈ held, number < image.observers.size
  reacts : ∀ number watcher, image.observers[number]? = some watcher →
    watcher.react = ledger.react number
  owned : ∀ number, image.observers[number]?.any Watcher.owned = ledger.owned number

/-- An image shows what a ledger says: registers and places, and of the registrations with each
register those that are alive, in their order. -/
structure Image.Shows (image : Image) (held : List Nat) (ledger : Ledger) : Prop extends
    image.ShowsWatchers held ledger where
  size : image.registers.size = ledger.size
  view : image.view = ledger.view
  live : ∀ cell, image.liveWatchers cell = ledger.live held cell

theorem filter_eq_of_imp {α : Type} {wide narrow : α → Bool} {values others : List α}
    (hsame : values.filter wide = others.filter wide)
    (himp : ∀ value, narrow value = true → wide value = true) :
    values.filter narrow = others.filter narrow := by
  have hnarrow (values : List α) : (values.filter wide).filter narrow = values.filter narrow := by
    rw [List.filter_filter]
    refine List.filter_congr fun value _ => ?_
    cases hvalue : narrow value with
    | false => rfl
    | true => rw [himp value hvalue, Bool.and_self]
  rw [← hnarrow values, hsame, hnarrow others]

namespace Image

variable {image : Image} {held : List Nat} {ledger : Ledger}

theorem ShowsWatchers.isSome_observer? (hshows : image.ShowsWatchers held ledger) (number : Nat) :
    (image.observer? number).isSome = ledger.alive held number := by
  rw [observer?, Ledger.alive, hshows.holds, ← hshows.owned number]
  cases hfound : image.observers[number]? with
  | none =>
      have habsent : number ∉ held := fun hheld => by
        have hthere := hshows.there number hheld
        rw [Array.getElem?_eq_getElem hthere] at hfound
        cases hfound
      simp [habsent]
  | some watcher =>
      rw [Option.isSome_filter]
      rfl

theorem ShowsWatchers.observer? (hshows : image.ShowsWatchers held ledger) {number : Nat}
    (halive : ledger.alive held number = true) :
    ∃ watcher, image.observer? number = some watcher ∧ watcher.react = ledger.react number := by
  rw [← hshows.isSome_observer?] at halive
  obtain ⟨watcher, hwatcher⟩ := Option.isSome_iff_exists.mp halive
  exact ⟨watcher, hwatcher,
    hshows.reacts number watcher (Option.filter_eq_some_iff.mp hwatcher).1⟩

theorem ShowsWatchers.liveWatchers (hshows : image.ShowsWatchers held ledger) (cell : Nat) :
    image.liveWatchers cell = (image.register cell).watchers.filter (ledger.alive held) :=
  List.filter_congr fun number _ => hshows.isSome_observer? number

theorem shows_ledger (hidle : image.held = []) : image.Shows [] image.ledger := by
  have hwatchers : image.ShowsWatchers [] image.ledger :=
    { holds := hidle
      there := fun number hheld => absurd hheld List.not_mem_nil
      reacts := fun number watcher hfound => by simp [ledger, hfound]
      owned := fun number => rfl }
  exact { hwatchers with
    size := rfl
    view := rfl
    live := hwatchers.liveWatchers }

theorem Shows.of_watchers (hwatchers : image.ShowsWatchers held ledger)
    (hsize : image.registers.size = ledger.size) (hview : image.view = ledger.view)
    (hlive : ∀ cell, (image.register cell).watchers.filter (ledger.alive held) =
      ledger.live held cell) : image.Shows held ledger :=
  { hwatchers with
    size := hsize
    view := hview
    live := fun cell => (hwatchers.liveWatchers cell).trans (hlive cell) }

theorem Shows.value (hshows : image.Shows held ledger) : image.value = ledger.value :=
  congrArg View.value hshows.view

theorem Shows.watchers (hshows : image.Shows held ledger) (cell : Nat) :
    (image.register cell).watchers.filter (ledger.alive held) = ledger.live held cell :=
  (hshows.liveWatchers cell).symm.trans (hshows.live cell)

theorem Shows.put (hshows : image.Shows held ledger) (cell : Nat) (register : Register)
    {registered : List Nat}
    (hlive : register.watchers.filter (ledger.alive held) =
      registered.filter (ledger.alive held)) :
    (image.setRegister cell register).Shows held (ledger.put cell register.value registered) := by
  by_cases hcell : cell < image.registers.size
  · rw [Ledger.put, if_pos (hshows.size ▸ hcell)]
    refine .of_watchers ⟨hshows.holds, hshows.there, hshows.reacts, hshows.owned⟩
      (Array.size_setIfInBounds.trans hshows.size) ?_ fun other => ?_
    · have hvalue : (image.setRegister cell register).value =
          Function.update ledger.value cell register.value := by
        funext other
        rw [Image.value, register_setRegister hcell, ← hshows.value, Function.update_apply]
        split <;> rfl
      have hcells := congrArg View.cell? hshows.view
      exact congrArg₂ View.mk hcells hvalue
    · rw [register_setRegister hcell]
      show _ = List.filter (ledger.alive held) (Function.update ledger.registered cell _ other)
      rw [Function.update_apply]
      split
      next => exact hlive
      next => exact hshows.watchers other
  · have hoff : image.setRegister cell register = image := by
      rw [setRegister, Array.setIfInBounds_eq_of_size_le (Nat.le_of_not_lt hcell)]
    rwa [hoff, Ledger.put, if_neg (hshows.size ▸ hcell)]

theorem Shows.store (hshows : image.Shows held ledger) (cell : Nat) (value : UInt16) :
    (image.store cell value).Shows held (ledger.stored cell value) :=
  hshows.put cell _ (hshows.watchers cell)

/-- A ledger does not notice that registrations are forgotten. -/
theorem Shows.forgetGone (hshows : image.Shows held ledger) (cell : Nat) :
    (image.forgetGone cell).Shows held ledger := by
  have hsame : ledger.put cell (image.register cell).value (ledger.registered cell) = ledger := by
    unfold Ledger.put
    split
    next =>
      have hvalue : (image.register cell).value = ledger.value cell :=
        congrFun hshows.value cell
      rw [hvalue, Function.update_eq_self, Function.update_eq_self]
    next => rfl
  rw [← hsame]
  refine hshows.put cell _ ?_
  rw [hshows.live, Ledger.live, List.filter_filter]
  simp only [Bool.and_self]

theorem Shows.watch (hshows : image.Shows held ledger) (cell number : Nat) :
    (image.watch cell number).Shows held (ledger.watched cell number) := by
  have hvalue : (image.register cell).value = ledger.value cell := congrFun hshows.value cell
  rw [Image.watch, Ledger.watched, ← hvalue]
  refine hshows.put cell _ ?_
  rw [List.filter_append, List.filter_append, hshows.watchers]
  rfl

theorem Shows.unwatch (hshows : image.Shows held ledger) (cell number : Nat) :
    (image.unwatch cell number).Shows held (ledger.unwatched cell number) := by
  have hvalue : (image.register cell).value = ledger.value cell := congrFun hshows.value cell
  rw [Image.unwatch, Ledger.unwatched, ← hvalue]
  refine hshows.put cell _ ?_
  rw [List.filter_comm, hshows.watchers, Ledger.live, List.filter_comm]

/-- Fewer observers are alive: what is alive in both stays the same. -/
theorem Shows.narrow {after : Image} {held' : List Nat} {ledger' : Ledger}
    (hshows : image.Shows held ledger) (hwatchers : after.ShowsWatchers held' ledger')
    (hregisters : after.registers = image.registers) (hview : after.view = ledger'.view)
    (hsize : ledger'.size = ledger.size) (hregistered : ledger'.registered = ledger.registered)
    (halive : ∀ number, ledger'.alive held' number = true → ledger.alive held number = true) :
    after.Shows held' ledger' := by
  refine .of_watchers hwatchers ?_ hview fun cell => ?_
  · rw [hregisters, hshows.size, hsize]
  · have hregister : after.register cell = image.register cell := by
      rw [register, hregisters, register]
    rw [hregister, Ledger.live, hregistered]
    exact filter_eq_of_imp (hshows.watchers cell) halive

theorem Shows.dropObserver (hshows : image.Shows held ledger) (number : Nat) :
    (image.dropObserver number).Shows held (ledger.dropped number) := by
  have hwatchers : (image.dropObserver number).ShowsWatchers held (ledger.dropped number) :=
    { holds := hshows.holds
      there := fun other hother => by
        rw [Image.dropObserver, Array.size_modify]
        exact hshows.there other hother
      reacts := fun other watcher hfound => by
        rw [Image.dropObserver, Array.getElem?_modify] at hfound
        split at hfound
        next =>
          obtain ⟨before, hbefore, rfl⟩ := Option.map_eq_some_iff.mp hfound
          exact hshows.reacts other before hbefore
        next => exact hshows.reacts other watcher hfound
      owned := fun other => by
        rw [Image.dropObserver, Array.getElem?_modify, Ledger.owned_dropped]
        split
        next hsame =>
          rw [if_pos hsame.symm]
          cases image.observers[other]? <;> rfl
        next hdiffers =>
          rw [if_neg (Ne.symm hdiffers)]
          exact hshows.owned other }
  refine hshows.narrow hwatchers rfl hshows.view rfl rfl fun other hother => ?_
  rw [Ledger.alive, Ledger.owned_dropped] at hother
  split at hother
  next =>
    rw [Bool.false_or] at hother
    rw [Ledger.alive, hother, Bool.or_true]
  next => exact hother

theorem Shows.hold (hshows : image.Shows held ledger) {numbers : List Nat}
    (halive : ∀ number ∈ numbers, ledger.alive held number = true) :
    (image.hold numbers).Shows (numbers ++ held) ledger := by
  have hwatchers : (image.hold numbers).ShowsWatchers (numbers ++ held) ledger :=
    { holds := congrArg (numbers ++ ·) hshows.holds
      there := fun number hnumber => by
        rcases List.mem_append.mp hnumber with hnew | hheld
        · obtain ⟨watcher, hfound, -⟩ := hshows.observer? (halive number hnew)
          have hthere := (Option.filter_eq_some_iff.mp hfound).1
          exact (Array.getElem?_eq_some_iff.mp hthere).1
        · exact hshows.there number hheld
      reacts := hshows.reacts
      owned := hshows.owned }
  refine hshows.narrow hwatchers rfl hshows.view rfl rfl fun number hnumber => ?_
  by_cases hnew : number ∈ numbers
  · exact halive number hnew
  · simpa [Ledger.alive, hnew] using hnumber

theorem Shows.release {number : Nat} (hshows : image.Shows (number :: held) ledger) :
    image.release.Shows held ledger := by
  have hwatchers : image.release.ShowsWatchers held ledger :=
    { holds := congrArg List.tail hshows.holds
      there := fun other hother => hshows.there other (List.mem_cons_of_mem number hother)
      reacts := hshows.reacts
      owned := hshows.owned }
  refine hshows.narrow hwatchers rfl hshows.view rfl rfl fun other hother => ?_
  simp only [Ledger.alive, List.contains_cons, Bool.or_eq_true] at hother ⊢
  exact hother.imp_right .inr

end Image

/-! ## An image goes by the ledger -/

/-- An image is left as `after` when events have happened that lead to a ledger. -/
structure Image.Tracks (image after : Image) (held : List Nat) (events : List RegisterEvent)
    (ledger : Ledger) : Prop extends after.Shows held ledger where
  notices : after.notices.toList = image.notices.toList ++ events.filterMap RegisterEvent.notice?

namespace Job

/-- The calls that a job begins with are due before it. -/
def due : Job → List Nat
  | .tell _ numbers => numbers
  | _ => []

/-- What an image does about a job; `write` carries out the writes. -/
def Yields (write : Image → Nat → UInt16 → Image) : Job → Image → Image → Prop
  | .program steps, image, after => Image.runWith write steps image = after
  | .act step reply, image, after => Image.actWith write image step = (reply, after)
  | .write cell value, image, after => write image cell value = after
  | .tell cell numbers, image, after =>
    numbers.foldl (fun image number => (Image.tell write cell image number).release) image = after

end Job

namespace Image

open Ledger

section

variable {image : Image} {held : List Nat} {ledger : Ledger}

theorem Shows.tracks {after : Image} (hafter : after.Shows held ledger)
    (hnotices : after.notices = image.notices) : image.Tracks after held [] ledger :=
  { hafter with
    notices := by
      rw [hnotices]
      exact (List.append_nil _).symm }

theorem Tracks.refl (hshows : image.Shows held ledger) : image.Tracks image held [] ledger :=
  hshows.tracks rfl

theorem Tracks.trans {between after : Image} {held' : List Nat} {events others : List RegisterEvent}
    {ledger' : Ledger} (hfirst : image.Tracks between held events ledger)
    (hsecond : between.Tracks after held' others ledger') :
    image.Tracks after held' (events ++ others) ledger' :=
  { hsecond with
    notices := by
      rw [hsecond.notices, hfirst.notices, List.filterMap_append, List.append_assoc] }

theorem Shows.tell {number : Nat} (hshows : image.Shows (number :: held) ledger)
    (write : Image → Nat → UInt16 → Image) (cell : Nat) :
    ∃ told,
      image.Tracks told (number :: held) [.called number cell (ledger.value cell)] ledger ∧
      told.overrun = image.overrun ∧
      Image.tell write cell image number =
        runWith write (ledger.react number cell (ledger.value cell)) told := by
  have halive : ledger.alive (number :: held) number = true := by simp [alive]
  obtain ⟨watcher, hfound, hreact⟩ := hshows.observer? halive
  have hvalue : image.value cell = ledger.value cell := congrFun hshows.value cell
  refine ⟨{ image with notices := image.notices.push ⟨number, ledger.value cell⟩ }, ?_, rfl, ?_⟩
  · exact ⟨⟨⟨hshows.holds, hshows.there, hshows.reacts, hshows.owned⟩, hshows.size, hshows.view,
      hshows.live⟩, Array.toList_push⟩
  · rw [Image.tell, hfound]
    simp only [hvalue, hreact]

theorem Shows.returned {number : Nat} (hshows : image.Shows (number :: held) ledger) :
    image.Tracks image.release held [.returned number] ledger :=
  { hshows.release with notices := (List.append_nil _).symm }

theorem Shows.write (hshows : image.Shows held ledger) (depth cell : Nat) (value : UInt16) :
    ∃ stored,
      image.Tracks stored ((ledger.stored cell value).live held cell ++ held)
        [.stored cell value] (ledger.stored cell value) ∧
      stored.overrun = image.overrun ∧
      writeWithin (depth + 1) image cell value =
        ((ledger.stored cell value).live held cell).foldl
          (fun image number => (Image.tell (writeWithin depth) cell image number).release)
          stored := by
  have hstored := (hshows.store cell value).forgetGone cell
  have halive : ∀ number ∈ (ledger.stored cell value).live held cell,
      (ledger.stored cell value).alive held number = true :=
    fun number hnumber => (List.mem_filter.mp hnumber).2
  refine ⟨_, { hstored.hold halive with notices := (List.append_nil _).symm }, rfl, ?_⟩
  rw [writeWithin, hstored.live]

theorem Shows.write_last (hshows : image.Shows held ledger) (cell : Nat) (value : UInt16)
    (hwithin : (writeWithin 0 image cell value).overrun = false) :
    (ledger.stored cell value).live held cell = [] ∧
      image.Tracks (writeWithin 0 image cell value) held [.stored cell value]
        (ledger.stored cell value) := by
  have hstored := (hshows.store cell value).forgetGone cell
  have hoverrun : (image.overrun ||
      !(((image.store cell value).forgetGone cell).liveWatchers cell).isEmpty) = false := hwithin
  rw [hstored.live, Bool.or_eq_false_iff, Bool.not_eq_false', List.isEmpty_iff] at hoverrun
  refine ⟨hoverrun.2, ?_⟩
  exact ⟨⟨⟨hstored.holds, hstored.there, hstored.reacts, hstored.owned⟩, hstored.size,
    hstored.view, hstored.live⟩, (List.append_nil _).symm⟩

end

/-! ### What an image does goes by the rules -/

theorem kept_overrun : Kept fun image after => after.overrun = false → image.overrun = false where
  refl _ hwithin := hwithin
  trans hfirst hsecond hwithin := hfirst (hsecond hwithin)
  setRegister _ _ _ hwithin := hwithin
  dropObserver _ _ hwithin := hwithin
  told _ _ hwithin := hwithin
  hold _ _ hwithin := hwithin
  release _ hwithin := hwithin
  overrun _ _ hwithin := (Bool.or_eq_false_iff.mp hwithin).1

/-- What an image does about a job goes by the rules, unless writes nest too deep. -/
def Sound (write : Image → Nat → UInt16 → Image) (job : Job) : Prop :=
  ∀ {image after : Image} {held : List Nat} {ledger : Ledger}, job.Yields write image after →
    image.Shows (job.due ++ held) ledger → after.overrun = false →
      ∃ events final, Runs held job ledger events final ∧ image.Tracks after held events final

section

variable {write : Image → Nat → UInt16 → Image}
  (hwrite : ∀ cell value, Sound write (.write cell value))
include hwrite

theorem sound_act (act : Act) (reply : Reply) : Sound write (.act act reply) := by
  intro image after held ledger hyields hshows hwithin
  cases act with
  | write cell value =>
      obtain ⟨rfl, rfl⟩ := Prod.mk.inj hyields
      obtain ⟨events, final, hruns, htracks⟩ := hwrite cell value rfl hshows hwithin
      exact ⟨events, final, .write hruns, htracks⟩
  | writeShort cell value =>
      obtain ⟨rfl, rfl⟩ := Prod.mk.inj hyields
      obtain ⟨events, final, hruns, htracks⟩ := hwrite cell _ rfl hshows hwithin
      exact ⟨events, final, .writeShort hruns, htracks⟩
  | writeOctets cell octets =>
      match octets with
      | high :: low :: others =>
          obtain ⟨rfl, rfl⟩ := Prod.mk.inj hyields
          obtain ⟨events, final, hruns, htracks⟩ := hwrite cell _ rfl hshows hwithin
          exact ⟨events, final, .writeOctets hruns, htracks⟩
      | [] | [_] =>
          obtain ⟨rfl, rfl⟩ := Prod.mk.inj hyields
          exact ⟨[], ledger, .fewOctets (by simp), .refl hshows⟩
  | update cell change =>
      obtain ⟨rfl, rfl⟩ := Prod.mk.inj hyields
      have hvalue : image.value cell = ledger.value cell := congrFun hshows.value cell
      rw [hvalue] at hwithin ⊢
      obtain ⟨events, final, hruns, htracks⟩ := hwrite cell _ rfl hshows hwithin
      exact ⟨events, final, .update hruns, htracks⟩
  | watch cell number =>
      obtain ⟨rfl, rfl⟩ := Prod.mk.inj hyields
      exact ⟨[], _, .watch, (hshows.watch cell number).tracks rfl⟩
  | unwatch cell number =>
      obtain ⟨rfl, rfl⟩ := Prod.mk.inj hyields
      exact ⟨[], _, .unwatch, (hshows.unwatch cell number).tracks rfl⟩
  | count cell =>
      obtain ⟨rfl, rfl⟩ := Prod.mk.inj hyields
      have hlive : image.liveWatchers cell = ledger.live held cell := hshows.live cell
      rw [hlive]
      exact ⟨[], _, .count, (hshows.forgetGone cell).tracks rfl⟩
  | drop number =>
      obtain ⟨rfl, rfl⟩ := Prod.mk.inj hyields
      exact ⟨[], _, .drop, (hshows.dropObserver number).tracks rfl⟩

variable (hkept : ∀ image cell value,
  (write image cell value).overrun = false → image.overrun = false)
include hkept

theorem sound_program (program : Program) : Sound write (.program program) := by
  induction program with
  | done =>
      rintro image after held ledger rfl hshows hwithin
      exact ⟨[], ledger, .done, .refl hshows⟩
  | look next ih =>
      intro image after held ledger hyields hshows hwithin
      obtain ⟨events, final, hruns, htracks⟩ := ih image.view hyields hshows hwithin
      have hview : image.view = ledger.view := hshows.view
      rw [hview] at hruns
      exact ⟨events, final, .look hruns, htracks⟩
  | act act next ih =>
      intro image after held ledger hyields hshows hwithin
      cases houtcome : actWith write image act with
      | mk reply between =>
          have hrest : runWith write (next reply) between = after := by
            rw [← hyields, runWith, houtcome]
          have hbetween : between.overrun = false := by
            refine kept_overrun.runWith hkept (next reply) between ?_
            rwa [hrest]
          obtain ⟨first, ledger', hact, hfirst⟩ :=
            sound_act hwrite act reply houtcome hshows hbetween
          obtain ⟨rest, final, hruns, hlast⟩ := ih reply hrest hfirst.toShows hwithin
          exact ⟨first ++ rest, final, .act hact hruns, hfirst.trans hlast⟩

theorem sound_tell (cell : Nat) (numbers : List Nat) : Sound write (.tell cell numbers) := by
  induction numbers with
  | nil =>
      rintro image after held ledger rfl hshows hwithin
      exact ⟨[], ledger, .nobody, .refl hshows⟩
  | cons number numbers ih =>
      intro image after held ledger hyields hshows hwithin
      obtain ⟨told, hcalled, -, htell⟩ := hshows.tell write cell
      -- What the observer does is over when the calls after it begin.
      have hrest : Job.Yields write (.tell cell numbers)
          (Image.tell write cell image number).release after := hyields
      have hreturned : (Image.tell write cell image number).release.overrun = false := by
        refine kept_overrun.tellAll hkept cell numbers _ ?_
        rwa [← hyields] at hwithin
      rw [htell] at hrest hreturned
      obtain ⟨inner, between, hinner, hmeanwhile⟩ :=
        sound_program hwrite hkept _ rfl hcalled.toShows hreturned
      have hback := hmeanwhile.toShows.returned
      obtain ⟨rest, final, hruns, hlast⟩ := ih hrest hback.toShows hwithin
      refine ⟨_, final, .called hinner hruns, ?_⟩
      simpa using ((hcalled.trans hmeanwhile).trans hback).trans hlast

end

theorem sound_write (depth cell : Nat) (value : UInt16) :
    Sound (writeWithin depth) (.write cell value) := by
  induction depth generalizing cell value with
  | zero =>
      rintro image after held ledger rfl hshows hwithin
      have hheld : image.Shows held ledger := hshows
      obtain ⟨hnobody, htracks⟩ := hheld.write_last cell value hwithin
      have hruns : Runs held (.tell cell ((ledger.stored cell value).live held cell))
          (ledger.stored cell value) [] (ledger.stored cell value) := by
        rw [hnobody]
        exact .nobody
      exact ⟨_, _, .stored hruns, htracks⟩
  | succ depth ih =>
      intro image after held ledger hyields hshows hwithin
      obtain ⟨stored, hstored, -, hwrite⟩ := hshows.write depth cell value
      have htell : Job.Yields (writeWithin depth)
          (.tell cell ((ledger.stored cell value).live held cell)) stored after :=
        hwrite.symm.trans hyields
      obtain ⟨events, final, hruns, htracks⟩ :=
        sound_tell ih (kept_overrun.writeWithin depth) cell _ htell hstored.toShows hwithin
      exact ⟨_, final, .stored hruns, hstored.trans htracks⟩

/-! ### What the rules allow is what an image does -/

/-- If writes may only nest deep enough, an image does a job in the way that is given. -/
def Feasible (held : List Nat) (job : Job) (ledger : Ledger) (events : List RegisterEvent)
    (final : Ledger) : Prop :=
  ∃ depth, ∀ more, depth ≤ more → ∀ image : Image, image.Shows (job.due ++ held) ledger →
    image.overrun = false → ∃ after, job.Yields (writeWithin more) image after ∧
      after.overrun = false ∧ image.Tracks after held events final

section

variable {held : List Nat} {job other : Job} {ledger final : Ledger} {events : List RegisterEvent}

theorem Feasible.of_yields (hfeasible : Feasible held job ledger events final)
    (hdue : other.due = job.due)
    (hsame : ∀ {write image after}, image.Shows (job.due ++ held) ledger →
      job.Yields write image after → other.Yields write image after) :
    Feasible held other ledger events final := by
  obtain ⟨depth, hdepth⟩ := hfeasible
  refine ⟨depth, fun more hmore image hshows hwithin => ?_⟩
  rw [hdue] at hshows
  obtain ⟨after, hyields, htracks⟩ := hdepth more hmore image hshows hwithin
  exact ⟨after, hsame hshows hyields, htracks⟩

theorem feasible_of_shows (step : Image → Image)
    (hyields : ∀ {write image}, image.Shows (job.due ++ held) ledger →
      job.Yields write image (step image))
    (hsame : ∀ image, (step image).overrun = image.overrun ∧ (step image).notices = image.notices)
    (hshows : ∀ {image}, image.Shows (job.due ++ held) ledger → (step image).Shows held final) :
    Feasible held job ledger [] final := by
  refine ⟨0, fun more _ image himage hwithin => ⟨step image, hyields himage, ?_, ?_⟩⟩
  · rw [(hsame image).1, hwithin]
  · exact (hshows himage).tracks (hsame image).2

theorem feasible_of_runs (hruns : Runs held job ledger events final) :
    Feasible held job ledger events final := by
  induction hruns with
  | done => exact feasible_of_shows id (fun _ => rfl) (fun _ => ⟨rfl, rfl⟩) id
  | look _ ih =>
      refine ih.of_yields rfl fun hshows hyields => ?_
      rw [← hshows.view] at hyields
      exact hyields
  | @act held act reply next ledger first between rest final _ _ ihact ihrest =>
      obtain ⟨depth, hdepth⟩ := ihact
      obtain ⟨deeper, hdeeper⟩ := ihrest
      -- The deeper one of both parts is deep enough for both.
      refine ⟨max depth deeper, fun more hmore image hshows hwithin => ?_⟩
      obtain ⟨middle, hact, hmiddle, hfirst⟩ :=
        hdepth more (le_trans (le_max_left ..) hmore) image hshows hwithin
      obtain ⟨after, hyields, hafter, hlast⟩ :=
        hdeeper more (le_trans (le_max_right ..) hmore) middle hfirst.toShows hmiddle
      refine ⟨after, ?_, hafter, hfirst.trans hlast⟩
      show runWith _ (.act act next) image = after
      rw [runWith, hact]
      exact hyields
  | write _ ih | writeShort _ ih | writeOctets _ ih =>
      exact ih.of_yields rfl fun _ hyields => congrArg (Prod.mk Reply.done) hyields
  | @fewOctets held cell octets ledger hfew =>
      refine feasible_of_shows id (fun {write image} _ => ?_) (fun _ => ⟨rfl, rfl⟩) id
      match octets with
      | [] | [_] => rfl
      | _ :: _ :: _ => simp at hfew
  | @update held cell change ledger events final _ ih =>
      refine ih.of_yields rfl fun {write image after} hshows hyields => ?_
      have hvalue : image.value cell = ledger.value cell := congrFun hshows.value cell
      rw [← hvalue] at hyields ⊢
      exact congrArg (Prod.mk _) hyields
  | watch =>
      exact feasible_of_shows _ (fun _ => rfl) (fun _ => ⟨rfl, rfl⟩) fun hshows => hshows.watch _ _
  | unwatch =>
      exact feasible_of_shows _ (fun _ => rfl) (fun _ => ⟨rfl, rfl⟩) fun hshows =>
        hshows.unwatch _ _
  | @count held cell ledger =>
      refine feasible_of_shows (·.forgetGone cell) (fun {write image} hshows => ?_)
        (fun _ => ⟨rfl, rfl⟩) fun hshows => hshows.forgetGone cell
      have hlive : image.liveWatchers cell = ledger.live held cell := hshows.live cell
      rw [← hlive]
      rfl
  | drop =>
      exact feasible_of_shows _ (fun _ => rfl) (fun _ => ⟨rfl, rfl⟩) fun hshows =>
        hshows.dropObserver _
  | @stored held cell value ledger events final _ ih =>
      -- The calls take one level more than what comes of them.
      obtain ⟨depth, hdepth⟩ := ih
      refine ⟨depth + 1, fun more hmore image hshows hwithin => ?_⟩
      obtain ⟨less, rfl⟩ := Nat.exists_eq_add_of_le' (Nat.le_of_add_left_le hmore)
      have hheld : image.Shows held ledger := hshows
      obtain ⟨stored, hstored, hoverrun, hwrite⟩ := hheld.write less cell value
      obtain ⟨after, hyields, hafter, htracks⟩ :=
        hdepth less (by omega) stored hstored.toShows (hoverrun.trans hwithin)
      exact ⟨after, hwrite.trans hyields, hafter, hstored.trans htracks⟩
  | nobody => exact feasible_of_shows id (fun _ => rfl) (fun _ => ⟨rfl, rfl⟩) id
  | @called held cell number numbers ledger inner between rest final _ _ ihinner ihrest =>
      obtain ⟨depth, hdepth⟩ := ihinner
      obtain ⟨deeper, hdeeper⟩ := ihrest
      refine ⟨max depth deeper, fun more hmore image hshows hwithin => ?_⟩
      have hdue : image.Shows (number :: (numbers ++ held)) ledger := hshows
      obtain ⟨told, hcalled, hoverrun, htell⟩ := hdue.tell (writeWithin more) cell
      obtain ⟨middle, hinner, hmiddle, hmeanwhile⟩ :=
        hdepth more (le_trans (le_max_left ..) hmore) told hcalled.toShows
          (hoverrun.trans hwithin)
      have hback := hmeanwhile.toShows.returned
      obtain ⟨after, hyields, hafter, hlast⟩ :=
        hdeeper more (le_trans (le_max_right ..) hmore) middle.release hback.toShows hmiddle
      refine ⟨after, ?_, hafter, ?_⟩
      · show numbers.foldl _ (Image.tell (writeWithin more) cell image number).release = after
        have hmiddle : Image.tell (writeWithin more) cell image number = middle :=
          htell.trans hinner
        rw [hmiddle]
        exact hyields
      · simpa using ((hcalled.trans hmeanwhile).trans hback).trans hlast

end

/-- What is done to an image from outside are acts, as those of observers are. -/
theorem update_eq_run (image : Image) (cell : Nat) (change : UInt16 → UInt16) :
    image.update cell change = run (.act (.update cell change) fun _ => .done) image :=
  rfl

theorem writeOctets_eq_act (image : Image) (cell : Nat) (octets : List UInt8) :
    image.writeOctets cell octets =
      match actWith write image (.writeOctets cell octets) with
      | (.refused fault, _) => .error fault
      | (_, after) => .ok after := by
  match octets with
  | [] | [_] | _ :: _ :: _ => rfl

/-- Whatever is done to the registers of an image and to those who watch them, observers acting in
their turn, goes by the rules, unless writes nest too deep; and whatever goes by the rules is done
if they may only nest deep enough.  Everyone is told of what the rules say, in that order. -/
theorem run_by_rules {image : Image} (hidle : image.held = []) (hwithin : image.overrun = false)
    (program : Program) :
    (∀ depth, (runWith (writeWithin depth) program image).overrun = false →
      ∃ events final, Runs [] (.program program) image.ledger events final ∧
        image.Tracks (runWith (writeWithin depth) program image) [] events final) ∧
    ∀ events final, Runs [] (.program program) image.ledger events final →
      ∃ depth, ∀ more, depth ≤ more →
        (runWith (writeWithin more) program image).overrun = false ∧
          image.Tracks (runWith (writeWithin more) program image) [] events final := by
  have hshows := shows_ledger hidle
  constructor
  · intro depth hdepth
    have hkept := kept_overrun.writeWithin depth
    exact sound_program (sound_write depth) hkept program rfl hshows hdepth
  · intro events final hruns
    obtain ⟨depth, hfeasible⟩ := feasible_of_runs hruns
    refine ⟨depth, fun more hmore => ?_⟩
    obtain ⟨after, rfl, hafter⟩ := hfeasible more hmore image hshows hwithin
    exact hafter

/-- Two registers.  The first one is watched by an observer that passes on to the second one what
it sees, by one that drops this observer, and by the first one again. -/
def relay : Image :=
  { empty 1 with
    registers := #[⟨0, [0, 1, 0]⟩, ⟨0, [2]⟩]
    observers := #[
      ⟨fun _ seen => .act (.write 1 (seen + 1)) fun _ => .done, true⟩,
      ⟨fun _ _ => .act (.drop 0) fun _ => .done, true⟩,
      ⟨fun _ _ => .done, true⟩] }

/-- The observer that is dropped is still called once, as its call was due; after that it is not,
and an octet alone writes nothing. -/
theorem run_by_rules_relay :
    let program : Program := .act (.write 0 5) fun _ => .act (.writeOctets 0 [1]) fun _ =>
      .act (.writeShort 0 (-1)) fun _ => .done
    relay.held = [] ∧ relay.overrun = false ∧
      (runWith (writeWithin 3) program relay).overrun = false ∧
      ∃ events final, Runs [] (.program program) relay.ledger events final ∧
        events.filterMap RegisterEvent.notice? =
          [⟨0, 5⟩, ⟨2, 6⟩, ⟨1, 5⟩, ⟨0, 5⟩, ⟨2, 6⟩, ⟨1, 0xFFFF⟩] ∧
        final.live [] 0 = [1] := by
  intro program
  have hdeep : (runWith (writeWithin 3) program relay).overrun = false := by decide
  refine ⟨rfl, rfl, hdeep, ?_⟩
  obtain ⟨events, final, hruns, htracks⟩ := (run_by_rules rfl rfl program).1 3 hdeep
  refine ⟨events, final, hruns, ?_, ?_⟩
  · rw [← List.nil_append (events.filterMap _)]
    exact htracks.notices.symm.trans (by decide)
  · rw [← htracks.live]
    decide

end Image

end Modbus
