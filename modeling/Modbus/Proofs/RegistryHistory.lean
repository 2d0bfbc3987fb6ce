import Mathlib.Tactic
import Modbus.Slave.Registry

/-!
# What a registry hands out

A registry knows which slaves it has started, but not what has become of them.  As
long as nobody else stops a slave and its loop does not end by itself, it serves
the port under which it is registered: whatever else is started or stopped keeps
other ports.  Behind the back of the registry a slave may come to rest, and it is
handed out all the same.
-/

namespace Modbus

/-! ## Ports of slaves -/

namespace Slave

variable {slave : Slave} {host : Host}

/-- The network port that a slave holds. -/
def holds (slave : Slave) : Option (TransportKind × UInt16) :=
  slave.listener.bind fun _ => slave.localPort.map fun port => (slave.settings.transport, port)

/-- What may happen to the ports of a host when a slave changes: those that it does not hold stay
in use, and one that it holds afterwards it held before, or it was free. -/
structure Moves (slave after : Slave) (host later : Host) : Prop where
  others : ∀ port ∈ host.taken, slave.holds ≠ some port → port ∈ later.taken
  held : ∀ port ∈ after.holds, port ∈ later.taken
  fresh : ∀ port ∈ after.holds, slave.holds = some port ∨ port ∉ host.taken

theorem Moves.refl (hheld : ∀ port ∈ slave.holds, port ∈ host.taken) :
    slave.Moves slave host host :=
  ⟨fun _ hport _ => hport, hheld, fun _ hport => Or.inl hport⟩

/-- A slave that changes does not get hold of a port that another one holds. -/
theorem Moves.apart {after rival : Slave} {later : Host} (hmoves : slave.Moves after host later)
    (hheld : ∀ port ∈ rival.holds, port ∈ host.taken)
    (hapart : ∀ port ∈ rival.holds, slave.holds ≠ some port) :
    ∀ port ∈ rival.holds, after.holds ≠ some port := by
  intro port hport hsame
  rcases hmoves.fresh port hsame with hbefore | hfree
  · exact hapart port hport hbefore
  · exact hfree (hheld port hport)

theorem holds_of_listener (hlistener : slave.listener = none) : slave.holds = none := by
  simp [holds, hlistener]

end Slave

/-- A port that is bound was free, and from then on it is in use. -/
theorem Host.bind_eq_ok {host later : Host} {kind : TransportKind} {address : String}
    {asked port : UInt16} (hbind : host.bind kind address asked = .ok (port, later)) :
    (kind, port) ∉ host.taken ∧ later.taken = (kind, port) :: host.taken ∧
      (asked ≠ 0 → port = asked) := by
  unfold bind at hbind
  dsimp only at hbind
  generalize hnumber : (if asked = 0 then host.freePort kind host.taken.length firstFree
    else asked) = number at hbind
  split_ifs at hbind with hknown hown htaken
  obtain ⟨rfl, rfl⟩ := Prod.mk.inj (Except.ok.inj hbind)
  refine ⟨by simpa using htaken, rfl, fun hasked => ?_⟩
  rw [← hnumber, if_neg hasked]

namespace Slave

variable {slave after : Slave} {host later : Host}

/-- A slave gets hold of its device, or of a port that was free. -/
theorem acquire_eq_ok {port : Option UInt16}
    (hacquire : slave.acquire host = .ok (port, later)) :
    (slave.settings.transport = .serial ∧ port = none ∧ later = host) ∨
      slave.settings.transport ≠ .serial ∧ ∃ number, port = some number ∧
        (slave.settings.transport, number) ∉ host.taken ∧
        later.taken = (slave.settings.transport, number) :: host.taken ∧
        (slave.settings.port ≠ 0 → number = slave.settings.port) := by
  unfold acquire at hacquire
  split at hacquire
  next => contradiction
  next serial htransport hserial =>
    cases hopened : host.openDevice serial with
    | error error =>
        rw [hopened] at hacquire
        contradiction
    | ok opened =>
        rw [hopened] at hacquire
        obtain ⟨rfl, rfl⟩ := Prod.mk.inj (Except.ok.inj hacquire)
        exact Or.inl ⟨htransport, rfl, rfl⟩
  next kind parameters hnone hsome =>
    have hnetwork : slave.settings.transport ≠ .serial := by
      intro hserial
      cases hparameters : slave.settings.serial with
      | none => exact hnone hserial hparameters
      | some serial => exact hsome serial hserial hparameters
    cases hbind : host.bind slave.settings.transport slave.settings.bindAddress
        slave.settings.port with
    | error error =>
        rw [hbind] at hacquire
        contradiction
    | ok bound =>
        obtain ⟨number, after⟩ := bound
        simp only [hbind] at hacquire
        split at hacquire
        next =>
          obtain ⟨rfl, rfl⟩ := Prod.mk.inj (Except.ok.inj hacquire)
          exact Or.inr ⟨hnetwork, number, rfl, Host.bind_eq_ok hbind⟩
        next => contradiction

/-- A slave that has got hold of its medium. -/
def launched (slave : Slave) (port : Option UInt16) : Slave :=
  { slave with state := .listening, localPort := port, listener := some .serving }

theorem start_of_listening {listener : Listener} (hlistener : slave.listener = some listener) :
    slave.start host = (.ok (), slave, host) := by
  unfold start
  rw [hlistener]

theorem listener_unstarted (slave : Slave) (fault : StartFault) :
    (slave.unstarted fault).listener = slave.listener := by
  cases fault <;> rfl

/-- A stopped slave that is started gets hold of its medium, or it has no task afterwards either
and the host is as it was. -/
theorem start_of_stopped (hlistener : slave.listener = none) :
    (∃ fault, slave.start host = (.error fault, slave.unstarted fault, host)) ∨
      ∃ port later, slave.acquire host = .ok (port, later) ∧
        slave.start host = (.ok (), slave.launched port, later) := by
  unfold start
  rw [hlistener]
  cases hacquire : slave.acquire host with
  | error fault => exact Or.inl ⟨fault, rfl⟩
  | ok acquired => exact Or.inr ⟨acquired.1, acquired.2, rfl, rfl⟩

/-- What a slave that gets hold of its medium holds was free. -/
theorem moves_acquire {port : Option UInt16} (hacquire : slave.acquire host = .ok (port, later)) :
    slave.Moves (slave.launched port) host later := by
  rcases acquire_eq_ok hacquire with ⟨-, rfl, rfl⟩ | ⟨-, number, rfl, hfree, htaken, -⟩
  · refine ⟨fun port hport _ => hport, fun port hport => ?_, fun port hport => ?_⟩
    all_goals simp [holds, launched] at hport
  · refine ⟨fun port hport _ => ?_, fun port hport => ?_, fun port hport => ?_⟩
    · rw [htaken]
      exact List.mem_cons_of_mem _ hport
    · obtain rfl : (slave.settings.transport, number) = port := by
        simpa [holds, launched] using hport
      rw [htaken]
      exact List.mem_cons_self
    · obtain rfl : (slave.settings.transport, number) = port := by
        simpa [holds, launched] using hport
      exact Or.inr hfree

theorem moves_start (hheld : ∀ port ∈ slave.holds, port ∈ host.taken) :
    slave.Moves (slave.start host).2.1 host (slave.start host).2.2 := by
  cases hlistener : slave.listener with
  | some listener =>
      rw [start_of_listening hlistener]
      exact Moves.refl hheld
  | none =>
      rcases @start_of_stopped slave host hlistener with
        ⟨fault, hstart⟩ | ⟨port, later, hacquire, hstart⟩
      · have hsame : (slave.unstarted fault).holds = none :=
          holds_of_listener ((slave.listener_unstarted fault).trans hlistener)
        rw [hstart]
        refine ⟨fun port hport _ => hport, fun port hport => ?_, fun port hport => ?_⟩
        all_goals
          rw [hsame] at hport
          contradiction
      · rw [hstart]
        exact moves_acquire hacquire

theorem moves_stop (hheld : ∀ port ∈ slave.holds, port ∈ host.taken) :
    slave.Moves (slave.stop host).1 host (slave.stop host).2 := by
  unfold stop
  split
  next => exact Moves.refl hheld
  next listener hlistener =>
    refine ⟨fun port hport hother => ?_, fun port hport => by contradiction,
      fun port hport => by contradiction⟩
    cases hlocal : slave.localPort with
    | none => exact hport
    | some number =>
        have hholds : slave.holds = some (slave.settings.transport, number) := by
          simp [holds, hlistener, hlocal]
        rw [hholds] at hother
        refine List.mem_filter.mpr ⟨hport, ?_⟩
        simpa using fun hsame => hother (by rw [hsame])

theorem moves_fail (hheld : ∀ port ∈ slave.holds, port ∈ host.taken) :
    slave.Moves slave.fail host host := by
  have hsame : slave.fail.holds = slave.holds := by
    unfold holds fail
    cases slave.listener <;> rfl
  exact ⟨fun _ hport _ => hport, by rwa [hsame],
    fun port hport => Or.inl (by rw [← hport, hsame])⟩

end Slave

/-! ## Histories -/

/-- A registry, and the host on which its slaves run. -/
structure Site where
  registry : SlaveRegistry
  host : Host

/-- What may happen to a registry and to the slaves that it has handed out. -/
inductive Operation where
  | getOrStart (settings : SlaveSettings)
  | close (kind : TransportKind) (port : String)
  | closeAll
  /-- Somebody starts a slave. -/
  | start (number : Nat)
  /-- Somebody stops a slave. -/
  | stop (number : Nat)
  /-- The serial port of a slave fails, and its loop ends. -/
  | fail (number : Nat)
  deriving DecidableEq, Repr

/-- What brings the slave of an entry to rest behind the back of the registry. -/
def Operation.Disturbs (operation : Operation) (entry : SlaveKey × Nat) : Prop :=
  operation = .stop entry.2 ∨ operation = .fail entry.2 ∧ entry.1.1 = .serial

namespace Site

/-- A registry that has handed out nothing yet. -/
def fresh (host : Host) : Site := ⟨.empty, host⟩

/-- Something happens to one of the slaves that were handed out. -/
def change (site : Site) (number : Nat) (work : Slave → Host → Slave × Host) : Site :=
  match site.registry.slaves[number]? with
  | none => site
  | some slave =>
    ⟨site.registry.setSlave number (work slave site.host).1, (work slave site.host).2⟩

def step (site : Site) : Operation → Site
  | .getOrStart settings =>
    let handed := (site.registry.getOrStart settings site.host).2
    ⟨handed.1, handed.2⟩
  | .close kind port =>
    let closed := (site.registry.close kind port site.host).2
    ⟨closed.1, closed.2⟩
  | .closeAll =>
    let closed := site.registry.closeAll site.host
    ⟨closed.1, closed.2⟩
  | .start number => site.change number fun slave host => (slave.start host).2
  | .stop number => site.change number Slave.stop
  | .fail number => site.change number fun slave host =>
    (if slave.settings.transport = .serial then slave.fail else slave, host)

def run (site : Site) (history : List Operation) : Site :=
  history.foldl step site

theorem run_append_singleton (site : Site) (history : List Operation) (operation : Operation) :
    site.run (history ++ [operation]) = (site.run history).step operation := by
  simp only [run, List.foldl_append, List.foldl_cons, List.foldl_nil]

/-! ## One port for one slave -/

/-- Slaves hold ports that are in use, no two of them the same one, and none is registered
twice. -/
structure Sound (site : Site) : Prop where
  held : ∀ slave ∈ site.registry.slaves, ∀ port ∈ slave.holds, port ∈ site.host.taken
  apart : ∀ {number other : Nat} {slave rival : Slave},
    site.registry.slaves[number]? = some slave → site.registry.slaves[other]? = some rival →
    number ≠ other → ∀ port ∈ slave.holds, rival.holds ≠ some port
  registered : ∀ entry ∈ site.registry.entries, entry.2 < site.registry.slaves.length
  once : (site.registry.entries.map Prod.snd).Nodup

theorem sound_fresh (host : Host) : (fresh host).Sound :=
  ⟨fun _ hslave => by contradiction, fun hslave => by contradiction,
    fun _ hentry => by contradiction, List.nodup_nil⟩

/-- What may happen to a slave that holds ports that are in use. -/
def Decent (work : Slave → Host → Slave × Host) : Prop :=
  ∀ (slave : Slave) (host : Host), (∀ port ∈ slave.holds, port ∈ host.taken) →
    slave.Moves (work slave host).1 host (work slave host).2

section Change

variable {site : Site} {number : Nat} {work : Slave → Host → Slave × Host}

theorem entries_change (site : Site) (number : Nat) (work : Slave → Host → Slave × Host) :
    (site.change number work).registry.entries = site.registry.entries := by
  unfold change
  split <;> rfl

theorem change_of_slave {slave : Slave} (hslave : site.registry.slaves[number]? = some slave) :
    site.change number work =
      ⟨site.registry.setSlave number (work slave site.host).1, (work slave site.host).2⟩ := by
  unfold change
  rw [hslave]

/-- What has become of the slaves after one of them has changed. -/
theorem slaves_change {slave found : Slave} {other : Nat}
    (hslave : site.registry.slaves[number]? = some slave)
    (hfound : (site.change number work).registry.slaves[other]? = some found) :
    other = number ∧ found = (work slave site.host).1 ∨
      other ≠ number ∧ site.registry.slaves[other]? = some found := by
  rw [change_of_slave hslave] at hfound
  have hlength := (List.getElem?_eq_some_iff.mp hslave).1
  by_cases hsame : other = number
  · subst hsame
    simp only [SlaveRegistry.setSlave, List.getElem?_set_self hlength] at hfound
    exact Or.inl ⟨rfl, (Option.some.inj hfound).symm⟩
  · simp only [SlaveRegistry.setSlave, List.getElem?_set_ne (Ne.symm hsame)] at hfound
    exact Or.inr ⟨hsame, hfound⟩

theorem Sound.change (hsound : site.Sound) (hwork : Decent work) (number : Nat) :
    (site.change number work).Sound := by
  cases hslave : site.registry.slaves[number]? with
  | none =>
      have hsame : site.change number work = site := by
        unfold Site.change
        rw [hslave]
      rwa [hsame]
  | some slave =>
      have hmoves := hwork slave site.host (hsound.held slave (List.mem_of_getElem? hslave))
      have hhost : (site.change number work).host = (work slave site.host).2 := by
        rw [change_of_slave hslave]
      have hheld {other : Nat} {rival : Slave}
          (hrival : site.registry.slaves[other]? = some rival) :
          ∀ port ∈ rival.holds, port ∈ site.host.taken :=
        hsound.held rival (List.mem_of_getElem? hrival)
      -- The ports of other slaves are not those of this one, before and after.
      have hapart {other : Nat} {rival : Slave}
          (hrival : site.registry.slaves[other]? = some rival) (hother : other ≠ number) :
          ∀ port ∈ rival.holds, (work slave site.host).1.holds ≠ some port :=
        hmoves.apart (hheld hrival) (hsound.apart hrival hslave hother)
      refine ⟨fun found hmem port hport => ?_, fun hfirst hsecond hdiffer port hport => ?_,
        fun entry hentry => ?_, ?_⟩
      · obtain ⟨other, hfound⟩ := List.getElem?_of_mem hmem
        rw [hhost]
        rcases slaves_change hslave hfound with ⟨-, rfl⟩ | ⟨hother, hrival⟩
        · exact hmoves.held port hport
        · exact hmoves.others port (hheld hrival port hport)
            (hsound.apart hrival hslave hother port hport)
      · rcases slaves_change hslave hfirst with ⟨rfl, rfl⟩ | ⟨hother, hrival⟩
        · rcases slaves_change hslave hsecond with ⟨rfl, -⟩ | ⟨hother, hrival⟩
          · contradiction
          · exact fun hsame => hapart hrival hother port hsame hport
        · rcases slaves_change hslave hsecond with ⟨rfl, rfl⟩ | ⟨-, hthird⟩
          · exact hapart hrival hother port hport
          · exact hsound.apart hrival hthird hdiffer port hport
      · rw [entries_change] at hentry
        rw [change_of_slave hslave]
        simpa [SlaveRegistry.setSlave] using hsound.registered entry hentry
      · rw [entries_change]
        exact hsound.once

end Change

theorem decent_start : Decent fun slave host => (slave.start host).2 :=
  fun _ _ hheld => Slave.moves_start hheld

theorem decent_stop : Decent Slave.stop :=
  fun _ _ hheld => Slave.moves_stop hheld

theorem decent_fail : Decent fun slave host =>
    (if slave.settings.transport = .serial then slave.fail else slave, host) := by
  intro slave host hheld
  dsimp only
  split
  · exact Slave.moves_fail hheld
  · exact .refl hheld

/-- Forgetting entries changes nothing else. -/
theorem Sound.forget {site : Site} (hsound : site.Sound) {entries : List (SlaveKey × Nat)}
    (hfewer : entries.Sublist site.registry.entries) :
    (⟨{ site.registry with entries := entries }, site.host⟩ : Site).Sound :=
  ⟨hsound.held, hsound.apart, fun entry hentry => hsound.registered entry (hfewer.subset hentry),
    hsound.once.sublist (hfewer.map Prod.snd)⟩

/-- Stopping a slave for the registry is stopping it. -/
theorem stopSlave_eq (registry : SlaveRegistry) (number : Nat) (host : Host) :
    registry.stopSlave number host =
      ((change ⟨registry, host⟩ number Slave.stop).registry,
        (change ⟨registry, host⟩ number Slave.stop).host) := by
  unfold change SlaveRegistry.stopSlave SlaveRegistry.slave
  rw [List.getD_eq_getElem?_getD]
  cases hslave : registry.slaves[number]? with
  | some slave => rfl
  | none =>
      have hlength := List.getElem?_eq_none_iff.mp hslave
      have hsame : registry.setSlave number default = registry := by
        unfold SlaveRegistry.setSlave
        rw [List.set_eq_of_length_le hlength]
      show (registry.setSlave number default, host) = (registry, host)
      rw [hsame]

/-- All slaves of some entries are stopped, and nothing is registered any more. -/
theorem sound_stopAll {entries : List (SlaveKey × Nat)} {registry : SlaveRegistry} {host : Host}
    (hsound : (⟨registry, host⟩ : Site).Sound) (hnone : registry.entries = []) :
    let stopped := entries.foldl
      (fun (registry, host) entry => registry.stopSlave entry.2 host) (registry, host)
    (⟨stopped.1, stopped.2⟩ : Site).Sound ∧ stopped.1.entries = [] := by
  induction entries generalizing registry host with
  | nil => exact ⟨hsound, hnone⟩
  | cons entry entries ih =>
      let stopped := change ⟨registry, host⟩ entry.2 Slave.stop
      have hstill : stopped.registry.entries = [] := by
        rw [entries_change]
        exact hnone
      have hothers := @ih stopped.registry stopped.host
        (hsound.change decent_stop entry.2) hstill
      rwa [← stopSlave_eq registry entry.2 host] at hothers

/-! ## Slaves that serve -/

end Site

namespace SlaveRegistry

theorem keyOf_serial {slave : Slave} (hserial : slave.settings.transport = .serial) :
    keyOf slave = (.serial, slave.settings.portKey) := by
  unfold keyOf
  rw [hserial]

theorem portKey_network {settings : SlaveSettings} (hnetwork : settings.transport ≠ .serial) :
    settings.portKey = toString settings.port.toNat := by
  unfold SlaveSettings.portKey
  split
  next htransport _ => exact absurd htransport hnetwork
  next => rfl

theorem keyOf_network {slave : Slave} {port : UInt16}
    (hnetwork : slave.settings.transport ≠ .serial) (hport : slave.localPort = some port) :
    keyOf slave = (slave.settings.transport, toString port.toNat) := by
  unfold keyOf
  rw [hport]
  split
  next htransport => exact absurd htransport hnetwork
  next found hsome _ =>
    rw [Option.some.inj hsome]
  next hnone _ => contradiction

/-- The key of a slave does not change when it is started, unless its settings leave the port
open. -/
theorem keyOf_launched {slave : Slave} {host later : Host} {port : Option UInt16}
    (hacquire : slave.acquire host = .ok (port, later))
    (hport : slave.settings.transport ≠ .serial → slave.settings.port ≠ 0) :
    keyOf (slave.launched port) = (slave.settings.transport, slave.settings.portKey) := by
  rcases Slave.acquire_eq_ok hacquire with ⟨hserial, -⟩ | ⟨hnetwork, number, rfl, -, -, hasked⟩
  · rw [hserial]
    exact keyOf_serial hserial
  · have hkey := @keyOf_network (slave.launched (some number)) number hnetwork rfl
    rw [hkey, portKey_network hnetwork, hasked (hport hnetwork)]
    rfl

end SlaveRegistry

/-- A slave serves what it is registered under: its loop runs, and it holds its port if that is a
network port. -/
structure Slave.Serves (slave : Slave) (host : Host) (key : SlaveKey) : Prop where
  listening : slave.state = .listening
  serving : slave.listener = some .serving
  key : SlaveRegistry.keyOf slave = key
  port : slave.settings.transport ≠ .serial →
    ∃ port, slave.localPort = some port ∧ (slave.settings.transport, port) ∈ host.taken

/-- A slave that has been started serves. -/
theorem Slave.serves_launched {slave : Slave} {host later : Host} {port : Option UInt16}
    (hacquire : slave.acquire host = .ok (port, later)) :
    (slave.launched port).Serves later (SlaveRegistry.keyOf (slave.launched port)) := by
  refine ⟨rfl, rfl, rfl, fun hnetwork => ?_⟩
  rcases acquire_eq_ok hacquire with ⟨hserial, -⟩ | ⟨-, number, rfl, -, htaken, -⟩
  · exact absurd hserial hnetwork
  · refine ⟨number, rfl, ?_⟩
    rw [htaken]
    exact List.mem_cons_self

namespace Site

variable {site : Site} {entry : SlaveKey × Nat}

/-- The slave of an entry serves what it is registered under. -/
def Serving (site : Site) (entry : SlaveKey × Nat) : Prop :=
  ∃ slave, site.registry.slaves[entry.2]? = some slave ∧ slave.Serves site.host entry.1

/-- A slave goes on serving whatever happens to another one. -/
theorem Serving.change {number : Nat} {work : Slave → Host → Slave × Host}
    (hsound : site.Sound) (hwork : Decent work) (hother : entry.2 ≠ number)
    (hserving : site.Serving entry) :
    (site.change number work).Serving entry := by
  cases hchanged : site.registry.slaves[number]? with
  | none =>
      unfold Site.change
      rwa [hchanged]
  | some changed =>
      obtain ⟨slave, hslave, hlistening, hserves, hkey, hport⟩ := hserving
      have hmoves := hwork changed site.host (hsound.held changed (List.mem_of_getElem? hchanged))
      rw [change_of_slave hchanged]
      refine ⟨slave, ?_, hlistening, hserves, hkey, fun hnetwork => ?_⟩
      · simp only [SlaveRegistry.setSlave, List.getElem?_set_ne hother.symm, hslave]
      · obtain ⟨port, hlocal, htaken⟩ := hport hnetwork
        have hholds : slave.holds = some (slave.settings.transport, port) := by
          simp [Slave.holds, hserves, hlocal]
        exact ⟨port, hlocal,
          hmoves.others _ htaken (hsound.apart hslave hchanged hother _ hholds)⟩

/-- Starting a slave that serves changes nothing. -/
theorem Serving.start (hsound : site.Sound) (number : Nat) (hserving : site.Serving entry) :
    (site.change number fun slave host => (slave.start host).2).Serving entry := by
  by_cases hother : entry.2 = number
  · subst hother
    obtain ⟨slave, hslave, hserves⟩ := hserving
    have hlength := (List.getElem?_eq_some_iff.mp hslave).1
    rw [change_of_slave hslave]
    refine ⟨slave, ?_, ?_⟩
    · simp [SlaveRegistry.setSlave, Slave.start_of_listening hserves.serving, hlength]
    · rw [Slave.start_of_listening hserves.serving]
      exact hserves
  · exact hserving.change hsound decent_start hother

/-- A slave that somebody else has stopped serves again once it has been started, unless its
settings leave the port open. -/
theorem serving_restarted {slave : Slave} (hslave : site.registry.slaves[entry.2]? = some slave)
    (hstopped : slave.listener = none)
    (hkey : entry.1 = (slave.settings.transport, slave.settings.portKey))
    (hport : slave.settings.transport ≠ .serial → slave.settings.port ≠ 0)
    (hok : (slave.start site.host).1 = .ok ()) : (site.step (.start entry.2)).Serving entry := by
  have hlength := (List.getElem?_eq_some_iff.mp hslave).1
  rcases @Slave.start_of_stopped slave site.host hstopped with
    ⟨fault, hstart⟩ | ⟨port, later, hacquire, hstart⟩
  · rw [hstart] at hok
    contradiction
  · have hserves := Slave.serves_launched hacquire
    rw [SlaveRegistry.keyOf_launched hacquire hport, ← hkey] at hserves
    rw [step, change_of_slave hslave, hstart]
    exact ⟨slave.launched port, List.getElem?_set_self hlength, hserves⟩

/-- What an operation does to the entries of a registry: those that are left were there before,
and their slaves go on serving unless one of them is stopped by somebody else or fails;
those that are new serve. -/
structure Keeps (site : Site) (operation : Operation) : Prop where
  sound : (site.step operation).Sound
  entries : ∀ entry ∈ (site.step operation).registry.entries,
    (site.step operation).Serving entry ∨
      entry ∈ site.registry.entries ∧ (site.Serving entry → operation.Disturbs entry)

/-- An entry that an operation leaves alone. -/
theorem kept {operation : Operation} (hentry : entry ∈ site.registry.entries)
    (hserving : site.Serving entry → (site.step operation).Serving entry) :
    (site.step operation).Serving entry ∨
      entry ∈ site.registry.entries ∧ (site.Serving entry → operation.Disturbs entry) := by
  by_cases hnow : (site.step operation).Serving entry
  · exact Or.inl hnow
  · exact Or.inr ⟨hentry, fun hbefore => absurd (hserving hbefore) hnow⟩

/-- An operation that does nothing. -/
theorem keeps_of_step_eq {operation : Operation} (hsound : site.Sound)
    (hsame : site.step operation = site) : site.Keeps operation := by
  refine ⟨by rwa [hsame], fun entry hentry => ?_⟩
  rw [hsame] at hentry
  exact kept hentry fun hserving => by rwa [hsame]

theorem keeps_start (hsound : site.Sound) (number : Nat) : site.Keeps (.start number) := by
  refine ⟨hsound.change decent_start number, fun entry hentry => ?_⟩
  rw [step, entries_change] at hentry
  exact kept hentry fun hserving => hserving.start hsound number

theorem keeps_stop (hsound : site.Sound) (number : Nat) : site.Keeps (.stop number) := by
  refine ⟨hsound.change decent_stop number, fun entry hentry => ?_⟩
  rw [step, entries_change] at hentry
  by_cases hother : entry.2 = number
  · exact Or.inr ⟨hentry, fun _ => Or.inl (by rw [hother])⟩
  · exact kept hentry fun hserving => hserving.change hsound decent_stop hother

theorem keeps_fail (hsound : site.Sound) (number : Nat) : site.Keeps (.fail number) := by
  refine ⟨hsound.change decent_fail number, fun entry hentry => ?_⟩
  rw [step, entries_change] at hentry
  by_cases hother : entry.2 = number
  · subst hother
    by_cases hserial : entry.1.1 = .serial
    · exact Or.inr ⟨hentry, fun _ => Or.inr ⟨rfl, hserial⟩⟩
    · -- No serial slave is registered under a network port.
      refine kept hentry fun ⟨slave, hslave, hserves⟩ => ?_
      have hnetwork : slave.settings.transport ≠ .serial := fun htransport =>
        hserial (by rw [← hserves.key, SlaveRegistry.keyOf_serial htransport])
      have hlength := (List.getElem?_eq_some_iff.mp hslave).1
      rw [step, change_of_slave hslave]
      exact ⟨slave, by simp [SlaveRegistry.setSlave, hnetwork, hlength], hserves⟩
  · exact kept hentry fun hserving => hserving.change hsound decent_fail hother

theorem keeps_closeAll (hsound : site.Sound) : site.Keeps .closeAll := by
  obtain ⟨hstopped, hnone⟩ := @sound_stopAll site.registry.entries
    { site.registry with entries := [] } site.host (hsound.forget (List.nil_sublist _)) rfl
  refine ⟨hstopped, fun entry hentry => ?_⟩
  have hempty : (site.step .closeAll).registry.entries = [] := hnone
  rw [hempty] at hentry
  contradiction

/-- The number of a slave stands under one key. -/
theorem Sound.eq_of_number {entry other : SlaveKey × Nat} (hsound : site.Sound)
    (hentry : entry ∈ site.registry.entries) (hother : other ∈ site.registry.entries)
    (hnumber : entry.2 = other.2) : entry = other :=
  List.inj_on_of_nodup_map hsound.once hentry hother hnumber

theorem mem_of_get? {registry : SlaveRegistry} {kind : TransportKind} {port : String}
    {number : Nat} (hget : registry.get? kind port = some number) :
    ((kind, port), number) ∈ registry.entries := by
  obtain ⟨front, back, hentries, -⟩ := List.lookup_eq_some_iff.mp hget
  rw [hentries]
  exact List.mem_append_right _ List.mem_cons_self

theorem keeps_close (hsound : site.Sound) (kind : TransportKind) (port : String) :
    site.Keeps (.close kind port) := by
  cases hget : site.registry.get? kind port with
  | none =>
      exact keeps_of_step_eq hsound (by simp only [step, SlaveRegistry.close, hget])
  | some number =>
      let left := site.registry.entries.filter fun entry => entry.1 != (kind, port)
      let forgetful : Site := ⟨{ site.registry with entries := left }, site.host⟩
      have hforgetful : forgetful.Sound := hsound.forget List.filter_sublist
      have hstep : site.step (.close kind port) = forgetful.change number Slave.stop := by
        simp only [step, SlaveRegistry.close, hget, stopSlave_eq]
        rfl
      refine ⟨by rw [hstep]; exact hforgetful.change decent_stop number, fun entry hentry => ?_⟩
      rw [hstep, entries_change] at hentry
      obtain ⟨hbefore, hkey⟩ := List.mem_filter.mp hentry
      -- The slave that is stopped was registered under this key and no other.
      have hother : entry.2 ≠ number := by
        intro hnumber
        have hsame := hsound.eq_of_number hbefore (mem_of_get? hget) hnumber
        rw [hsame] at hkey
        simp at hkey
      refine kept hbefore fun hserving => ?_
      have hstill : forgetful.Serving entry := hserving
      rw [hstep]
      exact hstill.change hforgetful decent_stop hother

/-! ## Slaves that are handed out -/

end Site

namespace SlaveRegistry

/-- A slave as it is when it is made. -/
def idle (settings : SlaveSettings) : Slave := ⟨settings, .serving .empty, .stopped, none, none⟩

theorem new_eq_ok {settings : SlaveSettings} {slave : Slave}
    (hnew : Slave.new settings = .ok slave) : slave = idle settings := by
  unfold Slave.new at hnew
  cases hvalid : settings.validate with
  | error error =>
      rw [hvalid] at hnew
      contradiction
  | ok valid =>
      rw [hvalid] at hnew
      exact (Except.ok.inj hnew).symm

section

variable {registry : SlaveRegistry} {settings : SlaveSettings} {host later : Host}

theorem getOrStart_there {number : Nat}
    (hget : registry.get? settings.transport settings.portKey = some number) :
    registry.getOrStart settings host = (.ok number, registry, host) := by
  unfold getOrStart
  rw [hget]

theorem getOrStart_new {port : Option UInt16}
    (hget : registry.get? settings.transport settings.portKey = none)
    (hnew : Slave.new settings = .ok (idle settings))
    (hacquire : (idle settings).acquire host = .ok (port, later)) :
    registry.getOrStart settings host = (.ok registry.slaves.length,
      (registry.register (keyOf ((idle settings).launched port))
        ((idle settings).launched port)).2, later) := by
  unfold getOrStart Slave.start
  rw [hget, hnew]
  have hlistener : (idle settings).listener = none := rfl
  simp only [hlistener, hacquire]
  rfl

/-- A slave that is asked for is there, or it cannot be started, or it is new and has got hold of
its medium. -/
theorem getOrStart_cases (registry : SlaveRegistry) (settings : SlaveSettings) (host : Host) :
    (∃ number, registry.get? settings.transport settings.portKey = some number ∧
        registry.getOrStart settings host = (.ok number, registry, host)) ∨
      (∃ fault, registry.getOrStart settings host = (.error fault, registry, host)) ∨
      ∃ port later, (idle settings).acquire host = .ok (port, later) ∧
        registry.getOrStart settings host = (.ok registry.slaves.length,
          (registry.register (keyOf ((idle settings).launched port))
            ((idle settings).launched port)).2, later) := by
  cases hget : registry.get? settings.transport settings.portKey with
  | some number => exact Or.inl ⟨number, rfl, getOrStart_there hget⟩
  | none =>
      cases hnew : Slave.new settings with
      | error error =>
          refine Or.inr (Or.inl ⟨.failed error, ?_⟩)
          unfold getOrStart
          rw [hget, hnew]
      | ok slave =>
          obtain rfl := new_eq_ok hnew
          have hlistener : (idle settings).listener = none := rfl
          rcases @Slave.start_of_stopped _ host hlistener with
            ⟨fault, hstart⟩ | ⟨port, later, hacquire, -⟩
          · refine Or.inr (Or.inl ⟨fault, ?_⟩)
            unfold getOrStart
            rw [hget, hnew]
            simp only [hstart]
          · exact Or.inr (Or.inr ⟨port, later, hacquire, getOrStart_new hget hnew hacquire⟩)

end

end SlaveRegistry

namespace Site

open SlaveRegistry

variable {site : Site} {entry : SlaveKey × Nat}

theorem getElem?_append_singleton {slaves : List Slave} {last found : Slave} {number : Nat}
    (hfound : (slaves ++ [last])[number]? = some found) :
    slaves[number]? = some found ∨ number = slaves.length ∧ found = last := by
  rcases Nat.lt_or_ge number slaves.length with hless | hmore
  · rw [List.getElem?_append_left hless] at hfound
    exact Or.inl hfound
  · rw [List.getElem?_append_right hmore, List.getElem?_singleton] at hfound
    split at hfound
    next hzero => exact Or.inr ⟨by omega, (Option.some.inj hfound).symm⟩
    next => contradiction

/-- A slave that is registered holds a port that was free. -/
theorem Sound.register {slave started : Slave} {later : Host} (hsound : site.Sound)
    (hnone : slave.holds = none) (hmoves : slave.Moves started site.host later) (key : SlaveKey) :
    (⟨(site.registry.register key started).2, later⟩ : Site).Sound := by
  have hstill : ∀ port ∈ site.host.taken, port ∈ later.taken := fun port hport =>
    hmoves.others port hport (by simp [hnone])
  have hapart {number : Nat} {rival : Slave}
      (hrival : site.registry.slaves[number]? = some rival) :
      ∀ port ∈ rival.holds, started.holds ≠ some port :=
    hmoves.apart (hsound.held rival (List.mem_of_getElem? hrival)) fun _ _ => by simp [hnone]
  refine ⟨fun found hfound port hport => ?_, fun hfirst hsecond hdiffer port hport => ?_,
    fun entry hentry => ?_, ?_⟩
  · rcases List.mem_append.mp hfound with hbefore | hlast
    · exact hstill port (hsound.held found hbefore port hport)
    · rw [List.mem_singleton.mp hlast] at hport
      exact hmoves.held port hport
  · rcases getElem?_append_singleton hfirst with hbefore | ⟨rfl, rfl⟩
    · rcases getElem?_append_singleton hsecond with hthere | ⟨rfl, rfl⟩
      · exact hsound.apart hbefore hthere hdiffer port hport
      · exact hapart hbefore port hport
    · rcases getElem?_append_singleton hsecond with hthere | ⟨rfl, -⟩
      · exact fun hsame => hapart hthere port hsame hport
      · contradiction
  · show entry.2 < (site.registry.slaves ++ [started]).length
    rw [List.length_append, List.length_singleton]
    rcases List.mem_cons.mp hentry with rfl | hbefore
    · exact Nat.lt_succ_self _
    · exact Nat.lt_succ_of_lt (hsound.registered entry (List.mem_filter.mp hbefore).1)
  · refine List.nodup_cons.mpr ⟨fun hmem => ?_,
      hsound.once.sublist (List.filter_sublist.map Prod.snd)⟩
    obtain ⟨entry, hentry, hnumber⟩ := List.mem_map.mp hmem
    have hless := hsound.registered entry (List.mem_filter.mp hentry).1
    omega

theorem keeps_getOrStart (hsound : site.Sound) (settings : SlaveSettings) :
    site.Keeps (.getOrStart settings) := by
  rcases getOrStart_cases site.registry settings site.host with
    ⟨number, -, hthere⟩ | ⟨fault, hfailed⟩ | ⟨port, later, hacquire, hstarted⟩
  · exact keeps_of_step_eq hsound (by simp only [step, hthere])
  · exact keeps_of_step_eq hsound (by simp only [step, hfailed])
  · have hstep : site.step (.getOrStart settings) =
        ⟨(site.registry.register (keyOf ((idle settings).launched port))
          ((idle settings).launched port)).2, later⟩ := by
      simp only [step, hstarted]
    have hmoves : (idle settings).Moves ((idle settings).launched port) site.host later :=
      Slave.moves_acquire hacquire
    refine ⟨by rw [hstep]; exact hsound.register rfl hmoves _, fun entry hentry => ?_⟩
    rw [hstep] at hentry
    rcases List.mem_cons.mp hentry with rfl | hbefore
    · refine Or.inl ?_
      rw [hstep]
      exact ⟨(idle settings).launched port, List.getElem?_concat_length,
        Slave.serves_launched hacquire⟩
    · have hthere := (List.mem_filter.mp hbefore).1
      refine kept hthere fun ⟨slave, hslave, hlistening, hserves, hkey, hport⟩ => ?_
      rw [hstep]
      refine ⟨slave, ?_, hlistening, hserves, hkey, fun hnetwork => ?_⟩
      · show (site.registry.slaves ++ [(idle settings).launched port])[entry.2]? = some slave
        rw [List.getElem?_append_left (hsound.registered entry hthere)]
        exact hslave
      · obtain ⟨bound, hlocal, htaken⟩ := hport hnetwork
        exact ⟨bound, hlocal, hmoves.others _ htaken (by simp [Slave.holds, idle])⟩

theorem keeps (hsound : site.Sound) (operation : Operation) : site.Keeps operation := by
  cases operation with
  | getOrStart settings => exact keeps_getOrStart hsound settings
  | close kind port => exact keeps_close hsound kind port
  | closeAll => exact keeps_closeAll hsound
  | start number => exact keeps_start hsound number
  | stop number => exact keeps_stop hsound number
  | fail number => exact keeps_fail hsound number

/-- Somebody else has stopped the slave of an entry, or its serial port has failed, while it was
registered, and it has not served since. -/
def Disturbed (host : Host) (history : List Operation) (entry : SlaveKey × Nat) : Prop :=
  ∃ before operation after, history = before ++ operation :: after ∧
    entry ∈ ((fresh host).run before).registry.entries ∧ operation.Disturbs entry ∧
    ∀ since, since <+: after →
      ¬((fresh host).run (before ++ operation :: since)).Serving entry

theorem Disturbed.later {host : Host} {history : List Operation} {operation : Operation}
    (hdisturbed : Disturbed host history entry)
    (hstill : ¬((fresh host).run (history ++ [operation])).Serving entry) :
    Disturbed host (history ++ [operation]) entry := by
  obtain ⟨before, disturbing, after, rfl, hregistered, hdisturbs, hnever⟩ := hdisturbed
  refine ⟨before, disturbing, after ++ [operation], by simp, hregistered, hdisturbs,
    fun since hsince => ?_⟩
  rcases List.prefix_concat_iff.mp hsince with rfl | hearlier
  · rwa [List.append_assoc, List.cons_append] at hstill
  · exact hnever since hearlier

/-- Whatever has happened to a registry, its slaves serve what they are registered under, except
those that were disturbed. -/
theorem run_keeps (host : Host) (history : List Operation) :
    ((fresh host).run history).Sound ∧
      ∀ entry ∈ ((fresh host).run history).registry.entries,
        ((fresh host).run history).Serving entry ∨ Disturbed host history entry := by
  induction history using List.reverseRecOn with
  | nil => exact ⟨sound_fresh host, fun _ hentry => by contradiction⟩
  | append_singleton history operation ih =>
      obtain ⟨hsound, hentries⟩ := ih
      obtain ⟨hsound, hkept⟩ := keeps hsound operation
      rw [← run_append_singleton] at hsound hkept
      refine ⟨hsound, fun entry hentry => ?_⟩
      by_cases hserving : ((fresh host).run (history ++ [operation])).Serving entry
      · exact Or.inl hserving
      · right
        obtain ⟨hbefore, hdisturbs⟩ := (hkept entry hentry).resolve_left hserving
        rcases hentries entry hbefore with hserved | hdisturbed
        · refine ⟨history, operation, [], rfl, hbefore, hdisturbs hserved, fun since hsince => ?_⟩
          rwa [List.prefix_nil.mp hsince]
        · exact hdisturbed.later hserving

end Site

/-- A slave serves what settings ask for: its loop runs, on the port or the device that they
name, or on some port if they leave it open. -/
structure Slave.Answers (slave : Slave) (settings : SlaveSettings) (host : Host) : Prop where
  listening : slave.state = .listening
  serving : slave.listener = some .serving
  medium : slave.settings.transport = settings.transport
  port : settings.transport ≠ .serial → ∃ port, slave.localPort = some port ∧
    (settings.transport, port) ∈ host.taken ∧ (settings.port ≠ 0 → port = settings.port)
  device : settings.transport = .serial → slave.settings.portKey = settings.portKey

namespace SlaveRegistry

theorem toString_port_inj {port other : UInt16}
    (hsame : toString port.toNat = toString other.toNat) : port = other := by
  have hdigits : Nat.toDigits 10 port.toNat = Nat.toDigits 10 other.toNat := by
    rw [Nat.toString_eq_repr, Nat.toString_eq_repr] at hsame
    rw [← Nat.toList_repr, ← Nat.toList_repr, hsame]
  have hvalue := congrArg (fun digits => Nat.ofDigitChars 10 digits 0) hdigits
  simp only [Nat.ofDigitChars_ten_toDigits] at hvalue
  exact UInt16.toNat_inj.mp hvalue

/-- A slave that serves what settings are registered under serves what they ask for. -/
theorem answers_of_serves {slave : Slave} {settings : SlaveSettings} {host : Host}
    (hserves : slave.Serves host (settings.transport, settings.portKey)) :
    slave.Answers settings host := by
  obtain ⟨hlistening, hserving, hkey, hport⟩ := hserves
  by_cases hserial : slave.settings.transport = .serial
  · rw [keyOf_serial hserial] at hkey
    obtain ⟨htransport, hdevice⟩ := Prod.mk.inj hkey
    exact ⟨hlistening, hserving, hserial.trans htransport,
      fun hnetwork => absurd htransport.symm hnetwork, fun _ => hdevice⟩
  · obtain ⟨port, hlocal, htaken⟩ := hport hserial
    rw [keyOf_network hserial hlocal] at hkey
    obtain ⟨htransport, hname⟩ := Prod.mk.inj hkey
    rw [htransport] at hserial htaken
    rw [portKey_network hserial] at hname
    exact ⟨hlistening, hserving, htransport,
      fun _ => ⟨port, hlocal, htaken, fun _ => toString_port_inj hname⟩,
      fun htransport => absurd htransport hserial⟩

/-- A slave that has just been started serves what its settings ask for. -/
theorem answers_launched {slave : Slave} {host later : Host} {port : Option UInt16}
    (hacquire : slave.acquire host = .ok (port, later)) :
    (slave.launched port).Answers slave.settings later := by
  refine ⟨rfl, rfl, rfl, fun hnetwork => ?_, fun _ => rfl⟩
  rcases Slave.acquire_eq_ok hacquire with ⟨hserial, -⟩ | ⟨-, number, rfl, -, htaken, hasked⟩
  · exact absurd hserial hnetwork
  · refine ⟨number, rfl, ?_, hasked⟩
    rw [htaken]
    exact List.mem_cons_self

/-- Whatever has happened to a registry and its slaves, a slave that it hands out serves what it
is asked for, unless somebody else has stopped that slave, or its serial port has failed, while
it was registered, and it has not served since. -/
theorem getOrStart_answers (host : Host) (history : List Operation) (settings : SlaveSettings) :
    let site := (Site.fresh host).run history
    let handed := site.registry.getOrStart settings site.host
    ∀ number, handed.1 = .ok number →
      (∃ slave, handed.2.1.slaves[number]? = some slave ∧
        slave.Answers settings handed.2.2) ∨
      Site.Disturbed host history ((settings.transport, settings.portKey), number) := by
  intro site handed number hok
  obtain ⟨-, hentries⟩ := Site.run_keeps host history
  have hhanded : site.registry.getOrStart settings site.host = handed := rfl
  rcases getOrStart_cases site.registry settings site.host with
    ⟨there, hget, hthere⟩ | ⟨fault, hfailed⟩ | ⟨port, later, hacquire, hstarted⟩
  · rw [← hhanded, hthere] at hok ⊢
    obtain rfl := Except.ok.inj hok
    rcases hentries _ (Site.mem_of_get? hget) with ⟨slave, hslave, hserves⟩ | hdisturbed
    · exact Or.inl ⟨slave, hslave, answers_of_serves hserves⟩
    · exact Or.inr hdisturbed
  · rw [← hhanded, hfailed] at hok
    contradiction
  · rw [← hhanded, hstarted] at hok ⊢
    obtain rfl := Except.ok.inj hok
    exact Or.inl ⟨_, List.getElem?_concat_length, answers_launched hacquire⟩

/-- The slaves of two ports are started, and one of them is stopped by somebody else.  The other
one still serves when it is asked for again. -/
theorem getOrStart_answers_other :
    let settings (port : UInt16) : SlaveSettings :=
      { SlaveSettings.tcp port with bindAddress := "127.0.0.1" }
    let history : List Operation :=
      [.getOrStart (settings 1502), .getOrStart (settings 1503), .stop 1]
    let site := (Site.fresh .loopback).run history
    let handed := site.registry.getOrStart (settings 1502) site.host
    handed.1 = .ok 0 ∧
      ∃ slave, handed.2.1.slaves[0]? = some slave ∧ slave.Answers (settings 1502) handed.2.2 := by
  intro settings history site handed
  have hok : handed.1 = .ok 0 := by decide +kernel
  refine ⟨hok, ?_⟩
  unfold handed site
  rcases getOrStart_answers .loopback history (settings 1502) 0 hok with hanswers | hdisturbed
  · exact hanswers
  · obtain ⟨before, operation, after, hhistory, -, hdisturbs, -⟩ := hdisturbed
    have hmem : operation ∈ history := by
      rw [hhistory]
      simp
    rcases hdisturbs with rfl | ⟨rfl, -⟩ <;> simp [history] at hmem

/-- Somebody else stops the slave of a port, and it holds the port no more; the loop of a serial
slave ends because its device fails.  The registry hands them out all the same when they are
asked for again.  The second one even says that it listens. -/
theorem getOrStart_hands_out_stopped :
    let network : SlaveSettings := { SlaveSettings.tcp 1502 with bindAddress := "127.0.0.1" }
    let serial : SlaveSettings :=
      SlaveSettings.onLine { SerialSettings.default with portName := "/dev/ttyS0" }
    let host : Host := { Host.loopback with nodes := (["dev", "ttyS0"], .line) :: Host.commonNodes }
    let stopped := (Site.fresh host).run [.getOrStart network, .stop 0]
    let failed := (Site.fresh host).run [.getOrStart serial, .fail 0]
    ((stopped.registry.getOrStart network stopped.host).1 = .ok 0 ∧
        (stopped.registry.slave 0).state = .stopped ∧
        stopped.host.taken = []) ∧
      (failed.registry.getOrStart serial failed.host).1 = .ok 0 ∧
        (failed.registry.slave 0).state = .listening ∧
        (failed.registry.slave 0).listener = some .finished := by
  intro network serial host stopped failed
  refine ⟨by decide +kernel, ?_⟩
  have hsplit : "/dev/ttyS0".splitOn "/" = ["", "dev", "ttyS0"] := by
    simp +decide [String.splitOn, String.splitOnAux]
  have hopened : host.openDevice { SerialSettings.default with portName := "/dev/ttyS0" } =
      .ok () := by
    have hpath : host.look "/dev/ttyS0" = .ok .line := by
      unfold Host.look
      rw [hsplit]
      decide +kernel
    unfold Host.openDevice Host.refusal?
    rw [hpath]
    rfl
  have hacquire : (idle serial).acquire host = .ok (none, host) := by
    show ((host.openDevice _).map _).mapError _ = _
    rw [hopened]
    rfl
  have hstep : (Site.fresh host).step (.getOrStart serial) =
      ⟨(empty.register (keyOf ((idle serial).launched none))
        ((idle serial).launched none)).2, host⟩ := by
    show (⟨(empty.getOrStart serial host).2.1, (empty.getOrStart serial host).2.2⟩ : Site) = _
    rw [getOrStart_new rfl rfl hacquire]
  have hfailed : failed = ((Site.fresh host).step (.getOrStart serial)).step (.fail 0) := rfl
  rw [hfailed, hstep]
  decide +kernel

end SlaveRegistry

end Modbus
