import Mathlib.Tactic
import Modbus.Proofs.RegistryHistory

/-!
# What stands in a registry

A slave is looked up under the port that its settings name and registered under the
one that it got, which is another one if they leave the port open.  As long as slaves
are started and stopped through the registry only, the two agree all the same: what is
registered runs, under the port that it holds, and nothing else runs.  Meanwhile others
may take and leave the ports that no slave holds, as they like.
-/

namespace Modbus

/-! ## Slaves that run and slaves that do not -/

namespace Slave

/-- The port that a slave has: its device by name, or the network port that it is bound to by
number. -/
inductive HasPort (slave : Slave) : String → Prop where
  | device {serial : SerialSettings} (htransport : slave.settings.transport = .serial)
      (hserial : slave.settings.serial = some serial) : slave.HasPort serial.portName
  | network {port : UInt16} (htransport : slave.settings.transport ≠ .serial)
      (hport : slave.localPort = some port) : slave.HasPort (toString port.toNat)

/-- A slave serves a port of a medium. -/
structure RunsOn (slave : Slave) (kind : TransportKind) (port : String) : Prop where
  listening : slave.state = .listening
  serving : slave.listener = some .serving
  medium : slave.settings.transport = kind
  port : slave.HasPort port

/-- A slave has been stopped: it has no task and no port. -/
structure Stopped (slave : Slave) : Prop where
  state : slave.state = .stopped
  listener : slave.listener = none
  port : slave.localPort = none

/-- A slave after it has been stopped. -/
def halted (slave : Slave) : Slave :=
  { slave with state := .stopped, localPort := none, listener := none }

variable {slave : Slave} {host later : Host}

theorem stopped_halted (slave : Slave) : slave.halted.Stopped := ⟨rfl, rfl, rfl⟩

theorem halted_of_stopped (hstopped : slave.Stopped) : slave.halted = slave := by
  obtain ⟨settings, station, state, port, listener⟩ := slave
  obtain ⟨rfl, rfl, rfl⟩ := hstopped
  rfl

theorem stop_eq_halted (hidle : slave.listener = none → slave.Stopped) :
    (slave.stop host).1 = slave.halted := by
  unfold stop
  split
  next hlistener => exact (halted_of_stopped (hidle hlistener)).symm
  next => rfl

theorem serial_of_acquire {port : Option UInt16} (hacquire : slave.acquire host = .ok (port, later))
    (htransport : slave.settings.transport = .serial) :
    ∃ serial, slave.settings.serial = some serial := by
  cases hserial : slave.settings.serial with
  | some serial => exact ⟨serial, rfl⟩
  | none =>
      unfold acquire at hacquire
      rw [htransport, hserial] at hacquire
      contradiction

/-- A slave that serves what it is registered under runs on the port of the key. -/
theorem Serves.runsOn {key : SlaveKey} (hserves : slave.Serves host key)
    (hnamed : slave.settings.transport = .serial → ∃ serial, slave.settings.serial = some serial) :
    slave.RunsOn key.1 key.2 := by
  obtain ⟨hlistening, hserving, rfl, hport⟩ := hserves
  by_cases htransport : slave.settings.transport = .serial
  · obtain ⟨serial, hserial⟩ := hnamed htransport
    have hname : slave.settings.portKey = serial.portName := by
      unfold SlaveSettings.portKey
      rw [htransport, hserial]
    rw [SlaveRegistry.keyOf_serial htransport, hname]
    exact ⟨hlistening, hserving, htransport, .device htransport hserial⟩
  · obtain ⟨port, hlocal, -⟩ := hport htransport
    rw [SlaveRegistry.keyOf_network htransport hlocal]
    exact ⟨hlistening, hserving, rfl, .network htransport hlocal⟩

/-- A slave runs on one port, and on the one that it would be registered under. -/
theorem RunsOn.key_eq {kind : TransportKind} {port : String} (hruns : slave.RunsOn kind port) :
    SlaveRegistry.keyOf slave = (kind, port) := by
  obtain ⟨-, -, rfl, hport⟩ := hruns
  cases hport with
  | @device serial htransport hserial =>
      have hname : slave.settings.portKey = serial.portName := by
        unfold SlaveSettings.portKey
        rw [htransport, hserial]
      rw [SlaveRegistry.keyOf_serial htransport, hname, htransport]
  | network htransport hport => exact SlaveRegistry.keyOf_network htransport hport

end Slave

/-! ## Histories of calls -/

/-- What others do on a host: the ports that they hold, and what there is in the file system. -/
structure Surroundings where
  reachable : Bool
  taken : List (TransportKind × UInt16)
  nodes : List (List String × Node)
  deriving DecidableEq, Repr

inductive SlaveRegistry.Call where
  | getOrStart (settings : SlaveSettings)
  | get (kind : TransportKind) (port : String)
  | close (kind : TransportKind) (port : String)
  | closeAll
  deriving DecidableEq, Repr

namespace Site

/-- Others do what they like, but the slaves hold their ports. -/
def amid (site : Site) (around : Surroundings) : Site :=
  { site with
    host :=
      { reachable := around.reachable
        taken := site.registry.slaves.filterMap Slave.holds ++ around.taken
        nodes := around.nodes } }

def called (site : Site) : SlaveRegistry.Call → Site
  | .getOrStart settings => site.step (.getOrStart settings)
  | .get _ _ => site
  | .close kind port => site.step (.close kind port)
  | .closeAll => site.step .closeAll

/-- Calls of a registry, one after another, each amid what others do by then. -/
def calledAll (site : Site) (calls : List (Surroundings × SlaveRegistry.Call)) : Site :=
  calls.foldl (fun site call => (site.amid call.1).called call.2) site

/-- Of the slaves that a registry has started those that are registered run, each under its port
and no two under the same one, and those that are not have been stopped. -/
structure Orderly (site : Site) : Prop where
  sound : site.Sound
  serving : ∀ entry ∈ site.registry.entries, site.Serving entry
  keys : (site.registry.entries.map Prod.fst).Nodup
  settled : ∀ {number : Nat} {slave : Slave}, site.registry.slaves[number]? = some slave →
    slave.Stopped ∨ ∃ key, (key, number) ∈ site.registry.entries
  named : ∀ slave ∈ site.registry.slaves, slave.settings.transport = .serial →
    ∃ serial, slave.settings.serial = some serial

theorem orderly_fresh (host : Host) : (fresh host).Orderly :=
  ⟨sound_fresh host, fun _ hentry => by contradiction, List.nodup_nil,
    fun hslave => by contradiction, fun _ hslave => by contradiction⟩

namespace Orderly

variable {site : Site}

theorem amid (horderly : site.Orderly) (around : Surroundings) : (site.amid around).Orderly := by
  have hheld {slave : Slave} (hslave : slave ∈ site.registry.slaves) :
      ∀ port ∈ slave.holds, port ∈ (site.amid around).host.taken := fun port hport =>
    List.mem_append_left _ (List.mem_filterMap.mpr ⟨slave, hslave, hport⟩)
  refine ⟨⟨fun slave => hheld, horderly.sound.apart, horderly.sound.registered,
    horderly.sound.once⟩, fun entry hentry => ?_, horderly.keys, horderly.settled, horderly.named⟩
  obtain ⟨slave, hslave, hlistening, hserving, hkey, hport⟩ := horderly.serving entry hentry
  refine ⟨slave, hslave, hlistening, hserving, hkey, fun hnetwork => ?_⟩
  obtain ⟨port, hlocal, -⟩ := hport hnetwork
  exact ⟨port, hlocal, hheld (List.mem_of_getElem? hslave) _ (by
    simp [Slave.holds, hserving, hlocal])⟩

theorem runs (horderly : site.Orderly) {entry : SlaveKey × Nat}
    (hentry : entry ∈ site.registry.entries) :
    ∃ slave, site.registry.slaves[entry.2]? = some slave ∧ slave.RunsOn entry.1.1 entry.1.2 := by
  obtain ⟨slave, hslave, hserves⟩ := horderly.serving entry hentry
  exact ⟨slave, hslave, hserves.runsOn (horderly.named slave (List.mem_of_getElem? hslave))⟩

theorem get?_of_mem (horderly : site.Orderly) {kind : TransportKind} {port : String} {number : Nat}
    (hentry : ((kind, port), number) ∈ site.registry.entries) :
    site.registry.get? kind port = some number := by
  cases hget : site.registry.get? kind port with
  | none =>
      have hall := List.lookup_eq_none_iff.mp hget _ hentry
      simp at hall
  | some found =>
      have hsame := List.inj_on_of_nodup_map horderly.keys (mem_of_get? hget) hentry rfl
      rw [(Prod.mk.inj hsame).2]

/-- The slave that is registered under a port is the one that runs on it. -/
theorem get?_eq_some_iff (horderly : site.Orderly) (kind : TransportKind) (port : String)
    (number : Nat) :
    site.registry.get? kind port = some number ↔
      ∃ slave, site.registry.slaves[number]? = some slave ∧ slave.RunsOn kind port := by
  constructor
  · intro hget
    exact horderly.runs (mem_of_get? hget)
  · rintro ⟨slave, hslave, hruns⟩
    -- What runs has not been stopped, so it is registered, and under the port that it has.
    rcases horderly.settled hslave with hstopped | ⟨key, hentry⟩
    · have hserving := hruns.serving
      rw [hstopped.listener] at hserving
      contradiction
    · obtain ⟨found, hfound, hserves⟩ := horderly.serving _ hentry
      obtain rfl : found = slave := Option.some.inj (hfound.symm.trans hslave)
      have hkey : key = (kind, port) := hserves.key.symm.trans hruns.key_eq
      rw [hkey] at hentry
      exact horderly.get?_of_mem hentry

end Orderly

/-! ## What calls do -/

open SlaveRegistry

theorem getElem?_change (site : Site) (number : Nat) (work : Slave → Host → Slave × Host)
    (other : Nat) :
    (site.change number work).registry.slaves[other]? =
      site.registry.slaves[other]?.map fun slave =>
        if other = number then (work slave site.host).1 else slave := by
  cases hslave : site.registry.slaves[number]? with
  | none =>
      have hsame : site.change number work = site := by
        unfold Site.change
        rw [hslave]
      rw [hsame]
      by_cases hother : other = number
      · rw [hother, hslave, Option.map_none]
      · simp only [hother, if_false, Option.map_id']
  | some slave =>
      rw [change_of_slave hslave]
      by_cases hother : other = number
      · have hlength := (List.getElem?_eq_some_iff.mp hslave).1
        simp only [SlaveRegistry.setSlave, hother, List.getElem?_set_self hlength, hslave,
          Option.map_some, if_true]
      · simp only [SlaveRegistry.setSlave, List.getElem?_set_ne (Ne.symm hother), hother, if_false,
          Option.map_id']

/-- A slave that is stopped comes to rest, and all others stay as they are. -/
theorem slaves_stopped {site : Site} {number : Nat}
    (hidle : ∀ slave ∈ site.registry.slaves, slave.listener = none → slave.Stopped)
    (other : Nat) :
    (site.change number Slave.stop).registry.slaves[other]? =
      site.registry.slaves[other]?.map fun slave =>
        if other = number then slave.halted else slave := by
  rw [getElem?_change]
  cases hslave : site.registry.slaves[other]? with
  | none => rfl
  | some slave =>
      rw [Option.map_some, Option.map_some,
        Slave.stop_eq_halted (hidle slave (List.mem_of_getElem? hslave))]

/-- What a call does to the entries of a registry of which nobody else stops the slaves. -/
theorem Keeps.serving {site : Site} {operation : Operation} (hkeeps : site.Keeps operation)
    (hserving : ∀ entry ∈ site.registry.entries, site.Serving entry)
    (hundisturbed : ∀ entry, ¬operation.Disturbs entry) :
    ∀ entry ∈ (site.step operation).registry.entries, (site.step operation).Serving entry := by
  intro entry hentry
  rcases hkeeps.entries entry hentry with hnow | ⟨hbefore, hdisturbs⟩
  · exact hnow
  · exact absurd (hdisturbs (hserving entry hbefore)) (hundisturbed entry)

namespace Orderly

variable {site : Site}

/-- A slave that is new has got hold of a port under which nothing is registered, whether its
settings name the port or leave it open. -/
theorem fresh_key (horderly : site.Orderly) {settings : SlaveSettings} {port : Option UInt16}
    {later : Host} (hget : site.registry.get? settings.transport settings.portKey = none)
    (hacquire : (idle settings).acquire site.host = .ok (port, later)) :
    ∀ entry ∈ site.registry.entries, entry.1 ≠ keyOf ((idle settings).launched port) := by
  intro entry hentry hsame
  rcases Slave.acquire_eq_ok hacquire with
    ⟨hserial, -, -⟩ | ⟨hnetwork, number, rfl, hfree, -, -⟩
  -- A device is registered under the name that the settings give, which leads to nothing.
  · have hkey : entry.1 = (settings.transport, settings.portKey) := by
      have hmedium : settings.transport = .serial := hserial
      rw [hsame, hmedium]
      exact keyOf_serial hserial
    have hall := List.lookup_eq_none_iff.mp hget entry hentry
    simp [hkey] at hall
  -- Whoever is registered under a network port holds it, so that it was not free.
  · obtain ⟨slave, hslave, hserves⟩ := horderly.serving entry hentry
    have hkey : keyOf slave = (settings.transport, toString number.toNat) := by
      rw [hserves.key, hsame]
      exact keyOf_network hnetwork rfl
    have htransport : slave.settings.transport ≠ .serial := by
      intro hserial
      rw [keyOf_serial hserial] at hkey
      exact hnetwork (Prod.mk.inj hkey).1.symm
    obtain ⟨held, hlocal, htaken⟩ := hserves.port htransport
    rw [keyOf_network htransport hlocal] at hkey
    obtain ⟨hmedium, hname⟩ := Prod.mk.inj hkey
    rw [hmedium, toString_port_inj hname] at htaken
    exact hfree htaken

theorem register_eq (horderly : site.Orderly) {settings : SlaveSettings} {port : Option UInt16}
    {later : Host} (hget : site.registry.get? settings.transport settings.portKey = none)
    (hacquire : (idle settings).acquire site.host = .ok (port, later)) :
    let slave := (idle settings).launched port
    site.registry.register (keyOf slave) slave =
      (site.registry.slaves.length,
        { slaves := site.registry.slaves ++ [slave]
          entries := (keyOf slave, site.registry.slaves.length) :: site.registry.entries }) := by
  intro slave
  have hfresh := horderly.fresh_key hget hacquire
  unfold SlaveRegistry.register
  rw [List.filter_eq_self.mpr fun entry hentry => bne_iff_ne.mpr (hfresh entry hentry)]

theorem get?_eq_none_of_started (horderly : site.Orderly) {settings : SlaveSettings}
    {after : SlaveRegistry × Host} (hstarted :
      site.registry.getOrStart settings site.host = (.ok site.registry.slaves.length, after)) :
    site.registry.get? settings.transport settings.portKey = none := by
  cases hget : site.registry.get? settings.transport settings.portKey with
  | none => rfl
  | some number =>
      have hregistered := horderly.sound.registered _ (mem_of_get? hget)
      rw [getOrStart_there hget] at hstarted
      have hnumber : number = site.registry.slaves.length :=
        Except.ok.inj (Prod.mk.inj hstarted).1
      exact absurd hregistered (by simp [hnumber])

theorem getOrStart (horderly : site.Orderly) (settings : SlaveSettings) :
    (site.step (.getOrStart settings)).Orderly := by
  have hkeeps := keeps_getOrStart horderly.sound settings
  have hserving := hkeeps.serving horderly.serving fun entry => by simp [Operation.Disturbs]
  rcases getOrStart_cases site.registry settings site.host with
    ⟨number, -, hthere⟩ | ⟨fault, hfailed⟩ | ⟨port, later, hacquire, hstarted⟩
  · have hsame : site.step (.getOrStart settings) = site := by simp only [step, hthere]
    rwa [hsame]
  · have hsame : site.step (.getOrStart settings) = site := by simp only [step, hfailed]
    rwa [hsame]
  · have hget := horderly.get?_eq_none_of_started hstarted
    have hregister := horderly.register_eq hget hacquire
    have hstep : (site.step (.getOrStart settings)).registry =
        (site.registry.register (keyOf ((idle settings).launched port))
          ((idle settings).launched port)).2 := by
      simp only [step, hstarted]
    dsimp only at hregister
    rw [hregister] at hstep
    refine ⟨hkeeps.sound, hserving, ?_, fun hslave => ?_, fun slave hslave => ?_⟩
    · rw [hstep, List.map_cons]
      refine List.nodup_cons.mpr ⟨fun hmem => ?_, horderly.keys⟩
      obtain ⟨entry, hentry, hkey⟩ := List.mem_map.mp hmem
      exact horderly.fresh_key hget hacquire entry hentry hkey
    · rw [hstep] at hslave ⊢
      rcases getElem?_append_singleton hslave with hbefore | ⟨rfl, rfl⟩
      · rcases horderly.settled hbefore with hstopped | ⟨key, hentry⟩
        · exact Or.inl hstopped
        · exact Or.inr ⟨key, List.mem_cons_of_mem _ hentry⟩
      · exact Or.inr ⟨_, List.mem_cons_self⟩
    · rw [hstep] at hslave
      rcases List.mem_append.mp hslave with hbefore | hlast
      · exact horderly.named slave hbefore
      · obtain rfl := List.mem_singleton.mp hlast
        exact fun htransport => Slave.serial_of_acquire hacquire htransport

theorem stopped_of_listener (horderly : site.Orderly) :
    ∀ slave ∈ site.registry.slaves, slave.listener = none → slave.Stopped := by
  intro slave hslave hlistener
  obtain ⟨number, hnumber⟩ := List.getElem?_of_mem hslave
  rcases horderly.settled hnumber with hstopped | ⟨key, hentry⟩
  · exact hstopped
  · obtain ⟨found, hfound, hserves⟩ := horderly.serving _ hentry
    obtain rfl : found = slave := Option.some.inj (hfound.symm.trans hnumber)
    rw [hserves.serving] at hlistener
    contradiction

/-- A slave that is closed is stopped and forgotten; all others stay as they are. -/
theorem close_eq (horderly : site.Orderly) {kind : TransportKind} {port : String} {number : Nat}
    (hget : site.registry.get? kind port = some number) :
    let closed := site.registry.close kind port site.host
    closed.1 = true ∧
      closed.2.1.entries = site.registry.entries.filter (fun entry => entry.1 != (kind, port)) ∧
      ∀ other, closed.2.1.slaves[other]? = site.registry.slaves[other]?.map fun slave =>
        if other = number then slave.halted else slave := by
  intro closed
  let left := site.registry.entries.filter fun entry => entry.1 != (kind, port)
  let forgetful : Site := ⟨{ site.registry with entries := left }, site.host⟩
  have hclosed : closed = (true, (forgetful.change number Slave.stop).registry,
      (forgetful.change number Slave.stop).host) := by
    unfold closed
    simp only [SlaveRegistry.close, hget, stopSlave_eq]
    rfl
  rw [hclosed]
  exact ⟨rfl, entries_change _ _ _, slaves_stopped horderly.stopped_of_listener⟩

theorem close (horderly : site.Orderly) (kind : TransportKind) (port : String) :
    (site.step (.close kind port)).Orderly := by
  have hkeeps := keeps_close horderly.sound kind port
  have hserving := hkeeps.serving horderly.serving fun entry => by simp [Operation.Disturbs]
  cases hget : site.registry.get? kind port with
  | none =>
      have hsame : site.step (.close kind port) = site := by
        simp only [step, SlaveRegistry.close, hget]
      rwa [hsame]
  | some number =>
      obtain ⟨-, hentries, hslaves⟩ := horderly.close_eq hget
      refine ⟨hkeeps.sound, hserving, ?_, fun {other slave} hslave => ?_, fun slave hslave => ?_⟩
      · show ((site.registry.close kind port site.host).2.1.entries.map Prod.fst).Nodup
        rw [hentries]
        exact horderly.keys.sublist (List.filter_sublist.map Prod.fst)
      · have hfound := (hslaves other).symm.trans hslave
        obtain ⟨before, hbefore, hafter⟩ := Option.map_eq_some_iff.mp hfound
        by_cases hother : other = number
        · rw [if_pos hother] at hafter
          exact Or.inl (hafter ▸ before.stopped_halted)
        · rw [if_neg hother] at hafter
          subst hafter
          rcases horderly.settled hbefore with hstopped | ⟨key, hentry⟩
          · exact Or.inl hstopped
          · refine Or.inr ⟨key, ?_⟩
            show (key, other) ∈ (site.registry.close kind port site.host).2.1.entries
            rw [hentries]
            refine List.mem_filter.mpr ⟨hentry, bne_iff_ne.mpr fun hkey => hother ?_⟩
            -- Under this key nothing else was registered.
            obtain rfl : key = (kind, port) := hkey
            exact Option.some.inj ((horderly.get?_of_mem hentry).symm.trans hget)
      · obtain ⟨other, hother⟩ := List.getElem?_of_mem hslave
        have hfound := (hslaves other).symm.trans hother
        obtain ⟨before, hbefore, rfl⟩ := Option.map_eq_some_iff.mp hfound
        have hnamed := horderly.named before (List.mem_of_getElem? hbefore)
        split
        · exact hnamed
        · exact hnamed

end Orderly

theorem slaves_stopAll {entries : List (SlaveKey × Nat)} {registry : SlaveRegistry} {host : Host}
    (hidle : ∀ slave ∈ registry.slaves, slave.listener = none → slave.Stopped) (number : Nat) :
    (entries.foldl (fun (registry, host) entry => registry.stopSlave entry.2 host)
        (registry, host)).1.slaves[number]? =
      registry.slaves[number]?.map fun slave =>
        if number ∈ entries.map Prod.snd then slave.halted else slave := by
  induction entries generalizing registry host with
  | nil => simp
  | cons entry entries ih =>
      let stopped := change ⟨registry, host⟩ entry.2 Slave.stop
      have hslaves (other : Nat) := @slaves_stopped ⟨registry, host⟩ entry.2 hidle other
      have hstill : ∀ slave ∈ stopped.registry.slaves, slave.listener = none → slave.Stopped := by
        intro slave hslave hlistener
        obtain ⟨other, hother⟩ := List.getElem?_of_mem hslave
        obtain ⟨before, hbefore, hafter⟩ :=
          Option.map_eq_some_iff.mp ((hslaves other).symm.trans hother)
        split at hafter
        · exact hafter ▸ before.stopped_halted
        · exact hidle slave (List.mem_of_getElem? (hafter ▸ hbefore)) hlistener
      have hfold : registry.stopSlave entry.2 host = (stopped.registry, stopped.host) :=
        stopSlave_eq registry entry.2 host
      rw [List.foldl_cons]
      show (entries.foldl _ (registry.stopSlave entry.2 host)).1.slaves[number]? = _
      rw [hfold, ih hstill, hslaves, Option.map_map]
      congr 1
      funext slave
      by_cases hfirst : number = entry.2 <;> by_cases hrest : number ∈ entries.map Prod.snd <;>
        simp [hfirst, hrest, Slave.halted]

namespace Orderly

variable {site : Site}

theorem closeAll_eq (horderly : site.Orderly) :
    let closed := (site.registry.closeAll site.host).1
    closed.entries = [] ∧ closed.slaves = site.registry.slaves.map Slave.halted := by
  obtain ⟨-, hempty⟩ := @sound_stopAll site.registry.entries
    { site.registry with entries := [] } site.host
    (horderly.sound.forget (List.nil_sublist _)) rfl
  refine ⟨hempty, List.ext_getElem? fun number => ?_⟩
  rw [List.getElem?_map]
  refine (@slaves_stopAll site.registry.entries { site.registry with entries := [] } site.host
    horderly.stopped_of_listener number).trans ?_
  cases hslave : site.registry.slaves[number]? with
  | none => rfl
  | some slave =>
      refine congrArg some ?_
      split
      · rfl
      -- Who is not registered at the end has been closed earlier, or never got going.
      next hnever =>
        rcases horderly.settled hslave with hstopped | ⟨key, hentry⟩
        · exact (Slave.halted_of_stopped hstopped).symm
        · exact absurd (List.mem_map.mpr ⟨_, hentry, rfl⟩) hnever

theorem closeAll (horderly : site.Orderly) : (site.step .closeAll).Orderly := by
  obtain ⟨hempty, hslaves⟩ := horderly.closeAll_eq
  have hnone : (site.step .closeAll).registry.entries = [] := hempty
  have hhalted : (site.step .closeAll).registry.slaves = site.registry.slaves.map Slave.halted :=
    hslaves
  refine ⟨(keeps_closeAll horderly.sound).sound, ?_, ?_, fun hslave => Or.inl ?_,
    fun slave hslave => ?_⟩
  · simp [hnone]
  · simp [hnone]
  · rw [hhalted] at hslave
    obtain ⟨before, -, rfl⟩ := List.mem_map.mp (List.mem_of_getElem? hslave)
    exact before.stopped_halted
  · rw [hhalted] at hslave
    obtain ⟨before, hbefore, rfl⟩ := List.mem_map.mp hslave
    exact horderly.named before hbefore

theorem called (horderly : site.Orderly) (call : Call) : (site.called call).Orderly := by
  cases call with
  | getOrStart settings => exact horderly.getOrStart settings
  | get kind port => exact horderly
  | close kind port => exact horderly.close kind port
  | closeAll => exact horderly.closeAll

theorem calledAll (horderly : site.Orderly) (calls : List (Surroundings × Call)) :
    (site.calledAll calls).Orderly := by
  induction calls generalizing site with
  | nil => exact horderly
  | cons call calls ih => exact ih ((horderly.amid call.1).called call.2)

end Orderly

theorem called_keeps {site : Site} (horderly : site.Orderly) (call : Call) {number : Nat}
    {slave : Slave} (hslave : site.registry.slaves[number]? = some slave) :
    (site.called call).registry.slaves[number]? = some slave ∨
      (site.called call).registry.slaves[number]? = some slave.halted := by
  cases call with
  | getOrStart settings =>
      left
      rcases getOrStart_cases site.registry settings site.host with
        ⟨other, -, hthere⟩ | ⟨fault, hfailed⟩ | ⟨port, later, -, hstarted⟩
      · simp only [Site.called, step, hthere, hslave]
      · simp only [Site.called, step, hfailed, hslave]
      · simp only [Site.called, step, hstarted]
        exact (List.getElem?_append_left (List.getElem?_eq_some_iff.mp hslave).1).trans hslave
  | get kind port => exact Or.inl hslave
  | close kind port =>
      cases hget : site.registry.get? kind port with
      | none =>
          simp only [Site.called, step, SlaveRegistry.close, hget, hslave, true_or]
      | some closed =>
          have hafter := (horderly.close_eq hget).2.2 number
          rw [hslave, Option.map_some] at hafter
          split at hafter
          · exact Or.inr hafter
          · exact Or.inl hafter
  | closeAll =>
      right
      show (site.registry.closeAll site.host).1.slaves[number]? = _
      rw [horderly.closeAll_eq.2, List.getElem?_map, hslave, Option.map_some]

theorem calledAll_keeps {site : Site} (horderly : site.Orderly)
    (calls : List (Surroundings × Call)) {number : Nat} {slave : Slave}
    (hslave : site.registry.slaves[number]? = some slave) :
    (site.calledAll calls).registry.slaves[number]? = some slave ∨
      (site.calledAll calls).registry.slaves[number]? = some slave.halted := by
  induction calls generalizing site slave with
  | nil => exact Or.inl hslave
  | cons call calls ih =>
      have hnext := (horderly.amid call.1).called call.2
      rcases called_keeps (horderly.amid call.1) call.2 hslave with hsame | hhalted
      · exact ih hnext hsame
      · exact Or.inr (or_self_iff.mp (ih hnext hhalted))

end Site

namespace SlaveRegistry

/-- What holds of a registry when it is called, and what the calls then do. -/
structure Lawful (registry : SlaveRegistry) (host : Host) : Prop where
  /-- What is registered runs under its key, on a port that it holds. -/
  bound : ∀ entry ∈ registry.entries, ∃ slave, registry.slaves[entry.2]? = some slave ∧
    slave.RunsOn entry.1.1 entry.1.2 ∧ ∀ port ∈ slave.holds, port ∈ host.taken
  /-- Neither a key nor a slave nor a network port belongs to two entries. -/
  unshared : ∀ entry ∈ registry.entries, ∀ other ∈ registry.entries, entry ≠ other →
    entry.1 ≠ other.1 ∧ entry.2 ≠ other.2 ∧
      ∀ port ∈ (registry.slave entry.2).holds, (registry.slave other.2).holds ≠ some port
  /-- What is got under a port is the slave that runs on it. -/
  found : ∀ (kind : TransportKind) (port : String) (number : Nat),
    registry.get? kind port = some number ↔
      ∃ slave, registry.slaves[number]? = some slave ∧ slave.RunsOn kind port
  /-- A slave that is registered is handed out, and nothing is started. -/
  there : ∀ (settings : SlaveSettings) (number : Nat),
    registry.get? settings.transport settings.portKey = some number →
      registry.getOrStart settings host = (.ok number, registry, host)
  /-- A slave that gets hold of its port is put beside the others, under the port that it got. -/
  started : ∀ (settings : SlaveSettings) (port : Option UInt16) (later : Host),
    registry.get? settings.transport settings.portKey = none →
    settings.validate = .ok () → (idle settings).acquire host = .ok (port, later) →
      let slave := (idle settings).launched port
      registry.getOrStart settings host = (.ok registry.slaves.length,
        { slaves := registry.slaves ++ [slave]
          entries := (keyOf slave, registry.slaves.length) :: registry.entries }, later)
  /-- If no slave can be started, nothing is changed. -/
  failed : ∀ (settings : SlaveSettings) (fault : StartFault),
    (registry.getOrStart settings host).1 = .error fault →
      (registry.getOrStart settings host).2 = (registry, host)
  /-- A slave that is closed is stopped and forgotten, and no other one. -/
  closed : ∀ (kind : TransportKind) (port : String),
    let closed := registry.close kind port host
    closed.1 = (registry.get? kind port).isSome ∧
      closed.2.1.entries = registry.entries.filter (fun entry => entry.1 != (kind, port)) ∧
      ∀ number, closed.2.1.slaves[number]? = registry.slaves[number]?.map fun slave =>
        if registry.get? kind port = some number then slave.halted else slave
  /-- When all are closed nothing is registered, and every slave is stopped. -/
  closedAll :
    let closed := (registry.closeAll host).1
    closed.entries = [] ∧ closed.slaves = registry.slaves.map Slave.halted

theorem lawful_of_orderly {site : Site} (horderly : site.Orderly) :
    site.registry.Lawful site.host where
  bound entry hentry := by
    obtain ⟨slave, hslave, hruns⟩ := horderly.runs hentry
    exact ⟨slave, hslave, hruns, horderly.sound.held slave (List.mem_of_getElem? hslave)⟩
  unshared entry hentry other hother hdiffer := by
    have hnumbers : entry.2 ≠ other.2 := fun hsame =>
      hdiffer (horderly.sound.eq_of_number hentry hother hsame)
    obtain ⟨slave, hslave, -⟩ := horderly.runs hentry
    obtain ⟨rival, hrival, -⟩ := horderly.runs hother
    refine ⟨fun hsame => hdiffer (List.inj_on_of_nodup_map horderly.keys hentry hother hsame),
      hnumbers, ?_⟩
    have hsame : site.registry.slave entry.2 = slave := by
      rw [SlaveRegistry.slave, List.getD_eq_getElem?_getD, hslave, Option.getD_some]
    have hother : site.registry.slave other.2 = rival := by
      rw [SlaveRegistry.slave, List.getD_eq_getElem?_getD, hrival, Option.getD_some]
    rw [hsame, hother]
    exact horderly.sound.apart hslave hrival hnumbers
  found := horderly.get?_eq_some_iff
  there settings number hget := getOrStart_there hget
  started settings port later hget hvalid hacquire := by
    have hnew : Slave.new settings = .ok (idle settings) := by
      unfold Slave.new
      rw [hvalid]
      rfl
    intro slave
    have hregister := horderly.register_eq hget hacquire
    dsimp only at hregister
    rw [getOrStart_new hget hnew hacquire, hregister]
  failed settings fault hfailed := by
    rcases getOrStart_cases site.registry settings site.host with
      ⟨number, -, hthere⟩ | ⟨other, hrefused⟩ | ⟨port, later, -, hstarted⟩
    · rw [hthere]
    · rw [hrefused]
    · rw [hstarted] at hfailed
      contradiction
  closed kind port := by
    intro closed
    cases hget : site.registry.get? kind port with
    | none =>
        have hunchanged : closed = (false, site.registry, site.host) := by
          unfold closed SlaveRegistry.close
          rw [hget]
        have hother : ∀ entry ∈ site.registry.entries, (entry.1 != (kind, port)) = true := by
          intro entry hentry
          have hkey := List.lookup_eq_none_iff.mp hget entry hentry
          rwa [bne_comm]
        rw [hunchanged]
        exact ⟨rfl, (List.filter_eq_self.mpr hother).symm, fun number => by simp⟩
    | some number =>
        obtain ⟨hclosed, hentries, hslaves⟩ := horderly.close_eq hget
        refine ⟨hclosed, hentries, fun other => (hslaves other).trans ?_⟩
        simp only [Option.some.injEq, eq_comm]
  closedAll := horderly.closeAll_eq

/-- Whatever has been asked of a registry before, and whatever others have done on its host, it
holds exactly the slaves that run, each under the port that it got, and calls do to them what
they say; when all are closed, every slave that it ever held has been stopped. -/
theorem lawful_calledAll (host : Host) (before calls : List (Surroundings × Call))
    (around : Surroundings) :
    let earlier := (Site.fresh host).calledAll before
    let site := (earlier.calledAll calls).amid around
    site.registry.Lawful site.host ∧
      ∀ (number : Nat) (slave : Slave), earlier.registry.slaves[number]? = some slave →
        (site.registry.closeAll site.host).1.slaves[number]? = some slave.halted := by
  intro earlier site
  have hearlier : earlier.Orderly := (Site.orderly_fresh host).calledAll before
  have horderly : site.Orderly := (hearlier.calledAll calls).amid around
  refine ⟨lawful_of_orderly horderly, fun number slave hslave => ?_⟩
  rw [horderly.closeAll_eq.2, List.getElem?_map]
  rcases Site.calledAll_keeps hearlier calls hslave with hsame | hhalted
  · exact congrArg (Option.map Slave.halted) hsame
  · exact congrArg (Option.map Slave.halted) hhalted

/-- Two slaves are started at any free port, the second one when somebody else has left the port
that was in use before.  Each is found under the port that it got, and both are stopped in the
end. -/
theorem lawful_calledAll_open_ports :
    let busy : Surroundings := ⟨true, [(.tcp, 32768)], Host.commonNodes⟩
    let quiet : Surroundings := ⟨true, [], Host.commonNodes⟩
    let settings : SlaveSettings := { SlaveSettings.tcp 0 with bindAddress := "127.0.0.1" }
    let earlier := (Site.fresh .loopback).calledAll [(busy, .getOrStart settings)]
    let site := (earlier.calledAll [(quiet, .getOrStart settings)]).amid quiet
    (∃ slave, site.registry.slaves[0]? = some slave ∧ slave.RunsOn .tcp "32769") ∧
      (∃ slave, site.registry.slaves[1]? = some slave ∧ slave.RunsOn .tcp "32768") ∧
      ∃ slave, earlier.registry.slaves[0]? = some slave ∧
        (site.registry.closeAll site.host).1.slaves[0]? = some slave.halted := by
  intro busy quiet settings earlier site
  obtain ⟨hlawful, hclosed⟩ := lawful_calledAll .loopback [(busy, .getOrStart settings)]
    [(quiet, .getOrStart settings)] quiet
  have hfirst : site.registry.get? .tcp "32769" = some 0 := by decide +kernel
  have hsecond : site.registry.get? .tcp "32768" = some 1 := by decide +kernel
  have hthere : 0 < earlier.registry.slaves.length := by decide +kernel
  have hslave := List.getElem?_eq_getElem hthere
  exact ⟨(hlawful.found _ _ _).mp hfirst, (hlawful.found _ _ _).mp hsecond, _, hslave,
    hclosed 0 _ hslave⟩

end SlaveRegistry

end Modbus
