import Mathlib.Data.Set.Card
import Mathlib.Tactic
import Modbus.PortRegistry

/-!
# Who shares a port

A registry does not hold the ports that it knows, so what it answers depends on who
else holds them.  A log of the calls tells this without the registry: which ports were
opened and under which names, which were evicted, and which handles are left.

The invariant below says that a registry and the log of its calls agree on what is
open and under which name.  Every call keeps it, whoever makes the call and whatever
became of the handles before.
-/

namespace Modbus

/-- What is asked of a registry, or done with a handle that it gave out. -/
inductive PortCall (α : Type) where
  /-- Asks for a port; the opener has the given outcome if it is run. -/
  | getOrOpen (name : String) (outcome : Except Error α)
  | clone (key : Nat)
  | drop (key : Nat)
  | evict (name : String) (key : Nat)

/-! ## The log of the calls -/

structure PortLog where
  /-- Every port that was opened and its name, the last one first.  Ports are numbered. -/
  opened : List (String × Nat)
  evicted : List Nat
  /-- The port of every handle that was not dropped. -/
  handles : List Nat

namespace PortLog

variable {α : Type}

def empty : PortLog := ⟨[], [], []⟩

/-- Somebody holds a port that was opened under the name and never evicted. -/
def Current (log : PortLog) (name : String) (key : Nat) : Prop :=
  (name, key) ∈ log.opened ∧ key ∉ log.evicted ∧ key ∈ log.handles

instance (log : PortLog) (name : String) (key : Nat) : Decidable (log.Current name key) :=
  inferInstanceAs (Decidable (_ ∧ _ ∧ _))

def current? (log : PortLog) (name : String) : Option Nat :=
  log.handles.find? fun key => log.Current name key

/-- Nobody clones a handle that is not there. -/
def call (log : PortLog) : PortCall α → PortLog
  | .getOrOpen name outcome =>
    match log.current? name, outcome with
    | some key, _ => { log with handles := key :: log.handles }
    | none, .ok _ =>
      { log with
        opened := (name, log.opened.length) :: log.opened
        handles := log.opened.length :: log.handles }
    | none, .error _ => log
  | .clone key => if key ∈ log.handles then { log with handles := key :: log.handles } else log
  | .drop key => { log with handles := log.handles.erase key }
  | .evict name key =>
    if log.Current name key then { log with evicted := key :: log.evicted } else log

def calledAll (log : PortLog) (calls : List (PortCall α)) : PortLog := calls.foldl call log

theorem current_of_current? {log : PortLog} {name : String} {key : Nat}
    (hcurrent : log.current? name = some key) : log.Current name key := by
  have hfound := List.find?_some hcurrent
  simpa using hfound

theorem not_current_of_current? {log : PortLog} {name : String}
    (hnone : log.current? name = none) (key : Nat) : ¬log.Current name key := by
  intro hcurrent
  have hfound := List.find?_eq_none.mp hnone key hcurrent.2.2
  simp [hcurrent] at hfound

end PortLog

namespace PortRegistry

variable {α : Type}

def call (registry : PortRegistry α) : PortCall α → PortRegistry α
  | .getOrOpen name outcome => (registry.getOrOpen name fun _ => outcome).2
  | .clone key => registry.hold key
  | .drop key => registry.release key
  | .evict name key => (registry.evict name key).2

def calledAll (registry : PortRegistry α) (calls : List (PortCall α)) : PortRegistry α :=
  calls.foldl call registry

/-! ## Looking ports up -/

theorem lookup_eq_some_iff_mem {entries : List (String × Nat)}
    (hnames : (entries.map Prod.fst).Nodup) (name : String) (key : Nat) :
    entries.lookup name = some key ↔ (name, key) ∈ entries := by
  induction entries with
  | nil => simp
  | cons entry entries ih =>
      rw [List.map_cons, List.nodup_cons] at hnames
      by_cases hname : name = entry.1
      · subst hname
        have hother : (entry.1, key) ∉ entries := fun hmem =>
          hnames.1 (List.mem_map.mpr ⟨_, hmem, rfl⟩)
        rw [List.lookup_cons]
        simp only [beq_self_eq_true, List.mem_cons, hother, or_false, Prod.ext_iff, true_and,
          Option.some.injEq]
        exact eq_comm
      · have hskip : (name == entry.1) = false := by simpa using hname
        have hdiffers : (name, key) ≠ entry := by
          intro hsame
          exact hname (congrArg Prod.fst hsame)
        rw [List.lookup_cons, hskip, List.mem_cons, ih hnames.2]
        simp [hdiffers]

theorem port?_change (registry : PortRegistry α) (key : Nat) {f : OpenPort α → OpenPort α}
    (hkey : ∀ port, (f port).key = port.key) (other : Nat) :
    (registry.change key f).port? other =
      if other = key then (registry.port? other).map f else registry.port? other := by
  have hfind (ports : List (OpenPort α)) :
      (ports.map fun port => if port.key == key then f port else port).find?
          (fun port => port.key == other) =
        if other = key then (ports.find? fun port => port.key == other).map f
        else ports.find? fun port => port.key == other := by
    induction ports with
    | nil => simp
    | cons port ports ih =>
        by_cases hthis : port.key = other <;> by_cases hchanged : port.key = key <;>
          by_cases hsame : other = key <;> simp_all
  exact hfind registry.ports

theorem port?_close (registry : PortRegistry α) (key other : Nat) :
    (registry.close key).port? other = if other = key then none else registry.port? other := by
  unfold port? close
  rw [List.find?_filter]
  by_cases hsame : other = key
  · subst hsame
    rw [if_pos rfl, List.find?_eq_none]
    intro port _
    simp
  · rw [if_neg hsame]
    congr 1
    funext port
    by_cases hthis : port.key = other
    · simp [hthis, hsame]
    · simp [hthis]

theorem holders_release (registry : PortRegistry α) (key other : Nat) :
    ((registry.release key).port? other).map OpenPort.holders =
      if other = key then
        ((registry.port? key).map OpenPort.holders).bind fun count =>
          if count ≤ 1 then none else some (count - 1)
      else (registry.port? other).map OpenPort.holders := by
  unfold release
  cases hport : registry.port? key with
  | none =>
      by_cases hsame : other = key
      · simp [hsame, hport]
      · simp [hsame]
  | some port =>
      by_cases hlast : port.holders ≤ 1
      · simp only [if_pos hlast, port?_close]
        by_cases hsame : other = key <;> simp [hsame, hlast]
      · simp only [if_neg hlast]
        rw [port?_change _ _ (by simp)]
        by_cases hsame : other = key <;> simp [hsame, hport, hlast]

/-! ## What a registry and the log agree on -/

/-- The holders of a port are the handles that are left, and a port that somebody holds stands
under a name if and only if it was opened under it and not evicted. -/
structure Reflects (registry : PortRegistry α) (log : PortLog) : Prop where
  fresh : registry.fresh = log.opened.length
  numbered : ∀ entry ∈ log.opened, entry.2 < log.opened.length
  once : (log.opened.map Prod.snd).Nodup
  evicted : ∀ key ∈ log.evicted, key < log.opened.length
  handles : ∀ key ∈ log.handles, key < log.opened.length
  holders : ∀ key, (registry.port? key).map OpenPort.holders =
    if key ∈ log.handles then some (log.handles.count key) else none
  names : (registry.registered.map Prod.fst).Nodup
  known : ∀ entry ∈ registry.registered, entry ∈ log.opened
  entries : ∀ name, ∀ key ∈ log.handles,
    (name, key) ∈ registry.registered ↔ (name, key) ∈ log.opened ∧ key ∉ log.evicted

namespace Reflects

variable {registry : PortRegistry α} {log : PortLog} {name : String} {key : Nat}

theorem empty : (PortRegistry.empty : PortRegistry α).Reflects .empty := by
  constructor <;> simp [PortRegistry.empty, PortLog.empty, port?]

theorem isOpen_iff (hreflects : registry.Reflects log) (key : Nat) :
    registry.isOpen key = true ↔ key ∈ log.handles := by
  have hholders := congrArg Option.isSome (hreflects.holders key)
  rw [Option.isSome_map] at hholders
  unfold isOpen
  rw [hholders]
  split <;> simp_all

theorem registered?_iff (hreflects : registry.Reflects log) (hheld : key ∈ log.handles) :
    registry.registered? name = some key ↔ log.Current name key := by
  unfold registered?
  rw [lookup_eq_some_iff_mem hreflects.names, hreflects.entries name key hheld]
  simp [PortLog.Current, hheld]

theorem live?_iff (hreflects : registry.Reflects log) (name : String) (key : Nat) :
    registry.live? name = some key ↔ log.Current name key := by
  unfold live?
  rw [Option.filter_eq_some_iff, hreflects.isOpen_iff]
  constructor
  · intro hlive
    exact (hreflects.registered?_iff hlive.2).mp hlive.1
  · intro hcurrent
    exact ⟨(hreflects.registered?_iff hcurrent.2.2).mpr hcurrent, hcurrent.2.2⟩

theorem current?_eq (hreflects : registry.Reflects log) (name : String) :
    log.current? name = registry.live? name := by
  cases hcurrent : log.current? name with
  | some key =>
      symm
      rw [hreflects.live?_iff]
      exact PortLog.current_of_current? hcurrent
  | none =>
      symm
      rw [Option.eq_none_iff_forall_ne_some]
      intro key hlive
      rw [hreflects.live?_iff] at hlive
      exact PortLog.not_current_of_current? hcurrent key hlive

theorem current_unique (hreflects : registry.Reflects log) {other : Nat}
    (hcurrent : log.Current name key) (hother : log.Current name other) : key = other := by
  rw [← hreflects.live?_iff] at hcurrent hother
  exact Option.some.inj (hcurrent.symm.trans hother)

/-! ### Every call keeps the agreement -/

theorem prune (hreflects : registry.Reflects log) : registry.prune.Reflects log := by
  constructor
  case names =>
    have hsublist : registry.prune.registered.Sublist registry.registered := List.filter_sublist
    exact hreflects.names.sublist (hsublist.map Prod.fst)
  case known =>
    intro entry hentry
    exact hreflects.known entry (List.mem_of_mem_filter hentry)
  case entries =>
    intro name key hheld
    have hopen := (hreflects.isOpen_iff key).mpr hheld
    rw [← hreflects.entries name key hheld]
    simp [PortRegistry.prune, hopen]
  case fresh => exact hreflects.fresh
  case numbered => exact hreflects.numbered
  case once => exact hreflects.once
  case evicted => exact hreflects.evicted
  case handles => exact hreflects.handles
  case holders => exact hreflects.holders

theorem hold (hreflects : registry.Reflects log) (hheld : key ∈ log.handles) :
    (registry.hold key).Reflects { log with handles := key :: log.handles } := by
  have hmem (other : Nat) : other ∈ key :: log.handles ↔ other ∈ log.handles := by
    by_cases hsame : other = key
    · simp [hsame, hheld]
    · simp [hsame]
  constructor
  case holders =>
    intro other
    have hother := hreflects.holders other
    unfold PortRegistry.hold
    rw [port?_change _ _ (by simp)]
    by_cases hsame : other = key
    · subst hsame
      cases hport : registry.port? other with
      | none => simp [hport, hheld] at hother
      | some port => simp_all
    · simp only [if_neg hsame, hmem, hother]
      rw [List.count_cons_of_ne (Ne.symm hsame)]
  case handles =>
    intro other hother
    exact hreflects.handles other ((hmem other).mp hother)
  case entries =>
    intro name other hother
    exact hreflects.entries name other ((hmem other).mp hother)
  case fresh => exact hreflects.fresh
  case numbered => exact hreflects.numbered
  case once => exact hreflects.once
  case evicted => exact hreflects.evicted
  case names => exact hreflects.names
  case known => exact hreflects.known

theorem register (hreflects : registry.Reflects log) (hvacant : ∀ key, ¬log.Current name key)
    (value : α) :
    (registry.register name value).Reflects
      { log with
        opened := (name, log.opened.length) :: log.opened
        handles := log.opened.length :: log.handles } := by
  have hnew : log.opened.length ∉ log.handles := fun hheld =>
    (hreflects.handles _ hheld).false
  constructor
  case fresh => simp [PortRegistry.register, hreflects.fresh]
  case numbered =>
    intro entry hentry
    rw [List.length_cons]
    rcases List.mem_cons.mp hentry with hthis | hearlier
    · simp [hthis]
    · exact (hreflects.numbered entry hearlier).trans (Nat.lt_succ_self _)
  case once =>
    rw [List.map_cons, List.nodup_cons]
    refine ⟨?_, hreflects.once⟩
    intro hmem
    obtain ⟨entry, hentry, hkey⟩ := List.mem_map.mp hmem
    have hbound := hreflects.numbered entry hentry
    dsimp only at hkey
    omega
  case evicted =>
    intro key hkey
    exact (hreflects.evicted key hkey).trans (Nat.lt_succ_self _)
  case handles =>
    intro key hkey
    rw [List.length_cons]
    rcases List.mem_cons.mp hkey with hthis | hearlier
    · simp [hthis]
    · exact (hreflects.handles key hearlier).trans (Nat.lt_succ_self _)
  case holders =>
    intro key
    have hkey := hreflects.holders key
    unfold port? at hkey ⊢
    simp only [PortRegistry.register, List.find?_cons, hreflects.fresh]
    by_cases hsame : log.opened.length = key
    · subst hsame
      simp [List.count_eq_zero_of_not_mem hnew]
    · have hskip : (log.opened.length == key) = false := by simpa using hsame
      rw [hskip, hkey, List.count_cons_of_ne hsame]
      simp [List.mem_cons, Ne.symm hsame]
  case names =>
    simp only [PortRegistry.register, List.map_cons, List.nodup_cons]
    constructor
    · simp [List.mem_map]
    · exact hreflects.names.sublist (List.filter_sublist.map Prod.fst)
  case known =>
    intro entry hentry
    rcases List.mem_cons.mp hentry with hthis | hearlier
    · rw [hthis, hreflects.fresh]
      exact List.mem_cons_self
    · exact List.mem_cons_of_mem _ (hreflects.known entry (List.mem_of_mem_filter hearlier))
  case entries =>
    intro other key hkey
    simp only [PortRegistry.register, hreflects.fresh, List.mem_cons, List.mem_filter]
    by_cases hthis : key = log.opened.length
    · subst hthis
      have hopened : (other, log.opened.length) ∉ log.opened := fun hmem =>
        (hreflects.numbered _ hmem).false
      have hregistered : (other, log.opened.length) ∉ registry.registered := fun hmem =>
        hopened (hreflects.known _ hmem)
      have hevicted : log.opened.length ∉ log.evicted := fun hmem =>
        (hreflects.evicted _ hmem).false
      simp [hopened, hregistered, hevicted]
    · have hearlier : key ∈ log.handles := (List.mem_cons.mp hkey).resolve_left hthis
      have hother : (other, key) ∈ log.opened ∧ key ∉ log.evicted → other ≠ name := by
        intro hcurrent hsame
        exact hvacant key (hsame ▸ ⟨hcurrent.1, hcurrent.2, hearlier⟩)
      rw [hreflects.entries other key hearlier]
      simp only [Prod.mk.injEq, hthis, and_false, false_or, bne_iff_ne, ne_eq]
      exact and_iff_left_of_imp hother

/-- The last handle of a port closes it. -/
theorem release (hreflects : registry.Reflects log) (key : Nat) :
    (registry.release key).Reflects { log with handles := log.handles.erase key } := by
  have hless {other : Nat} (hother : other ∈ log.handles.erase key) : other ∈ log.handles :=
    List.mem_of_mem_erase hother
  have hsame : (registry.release key).registered = registry.registered ∧
      (registry.release key).fresh = registry.fresh := by
    unfold PortRegistry.release
    split
    · exact ⟨rfl, rfl⟩
    · split <;> exact ⟨rfl, rfl⟩
  constructor
  case fresh =>
    rw [hsame.2]
    exact hreflects.fresh
  case names =>
    rw [hsame.1]
    exact hreflects.names
  case known =>
    rw [hsame.1]
    exact hreflects.known
  case entries =>
    intro name other hother
    rw [hsame.1]
    exact hreflects.entries name other (hless hother)
  case handles =>
    intro other hother
    exact hreflects.handles other (hless hother)
  case numbered => exact hreflects.numbered
  case once => exact hreflects.once
  case evicted => exact hreflects.evicted
  case holders =>
    intro other
    rw [holders_release, hreflects.holders, hreflects.holders]
    by_cases hthis : other = key
    · subst hthis
      have hcount := List.count_erase_self (a := other) (l := log.handles)
      by_cases hheld : other ∈ log.handles
      · have hpositive := List.count_pos_iff.mpr hheld
        by_cases hlast : log.handles.count other ≤ 1
        · have hgone : other ∉ log.handles.erase other := by
            rw [← List.count_eq_zero, hcount]
            omega
          simp [hheld, hlast, hgone]
        · have hleft : other ∈ log.handles.erase other := by
            rw [← List.count_pos_iff, hcount]
            omega
          simp [hheld, hlast, hleft, hcount]
      · have hgone : other ∉ log.handles.erase other := fun hmem => hheld (hless hmem)
        simp [hheld, hgone]
    · simp [hthis, List.mem_erase_of_ne hthis, List.count_erase_of_ne hthis]

/-- An entry is forgotten, and with it the port that is evicted, if there is one. -/
theorem forget (hreflects : registry.Reflects log) {evicted : List Nat}
    (hevicted : ∀ key ∈ evicted, key < log.opened.length)
    (hgone : ∀ other, ∀ key ∈ log.handles, (other, key) ∈ log.opened →
      (key ∉ evicted ↔ key ∉ log.evicted ∧ other ≠ name)) :
    ({ registry with
        registered := registry.registered.filter fun entry => entry.1 != name } :
      PortRegistry α).Reflects { log with evicted := evicted } := by
  constructor
  case names => exact hreflects.names.sublist (List.filter_sublist.map Prod.fst)
  case known =>
    intro entry hentry
    exact hreflects.known entry (List.mem_of_mem_filter hentry)
  case entries =>
    intro other key hheld
    rw [List.mem_filter, hreflects.entries other key hheld, and_assoc]
    apply and_congr_right
    intro hopened
    simp [hgone other key hheld hopened]
  case evicted => exact hevicted
  case fresh => exact hreflects.fresh
  case numbered => exact hreflects.numbered
  case once => exact hreflects.once
  case handles => exact hreflects.handles
  case holders => exact hreflects.holders

theorem evict (hreflects : registry.Reflects log) (name : String) (key : Nat) :
    (registry.evict name key).2.Reflects (log.call (.evict name key : PortCall α)) := by
  unfold PortRegistry.evict
  simp only [PortLog.call]
  by_cases hregistered : registry.registered? name = some key
  · rw [if_pos hregistered]
    by_cases hcurrent : log.Current name key
    · rw [if_pos hcurrent]
      apply hreflects.forget
      · intro other hother
        rcases List.mem_cons.mp hother with hthis | hearlier
        · exact hthis ▸ hreflects.numbered _ hcurrent.1
        · exact hreflects.evicted other hearlier
      · intro other port hheld hopened
        -- The evicted port has one name, and under the name there is no other port.
        have hname : port = key → other = name := by
          intro hsame
          subst hsame
          exact congrArg Prod.fst
            (List.inj_on_of_nodup_map hreflects.once hopened hcurrent.1 rfl)
        have hport : port ∉ log.evicted → other = name → port = key := by
          intro hkept hsame
          subst hsame
          exact hreflects.current_unique ⟨hopened, hkept, hheld⟩ hcurrent
        rw [List.mem_cons, not_or]
        constructor
        · intro hkept
          exact ⟨hkept.2, fun hsame => hkept.1 (hport hkept.2 hsame)⟩
        · intro hkept
          exact ⟨fun hsame => hkept.2 (hname hsame), hkept.1⟩
    · rw [if_neg hcurrent]
      apply hreflects.forget hreflects.evicted
      intro other port hheld hopened
      -- The entry under the name is that of a port that nobody holds.
      have hother : port ∉ log.evicted → other ≠ name := by
        intro hkept hsame
        subst hsame
        have hlive : log.Current other port := ⟨hopened, hkept, hheld⟩
        have hthis := (hreflects.registered?_iff hheld).mpr hlive
        rw [hregistered] at hthis
        exact hcurrent (Option.some.inj hthis ▸ hlive)
      exact (and_iff_left_of_imp hother).symm
  · have hcurrent : ¬log.Current name key := by
      intro hcurrent
      exact hregistered ((hreflects.registered?_iff hcurrent.2.2).mpr hcurrent)
    rw [if_neg hregistered, if_neg hcurrent]
    exact hreflects

theorem getOrOpen (hreflects : registry.Reflects log) (name : String)
    (outcome : Except Error α) :
    (registry.getOrOpen name fun _ => outcome).2.Reflects (log.call (.getOrOpen name outcome)) := by
  have hpruned := hreflects.prune
  unfold PortRegistry.getOrOpen
  simp only [PortLog.call, hpruned.current?_eq]
  cases hlive : registry.prune.live? name with
  | some key =>
      have hcurrent := (hpruned.live?_iff name key).mp hlive
      exact hpruned.hold hcurrent.2.2
  | none =>
      cases outcome with
      | error error => exact hpruned
      | ok value =>
          apply hpruned.register
          intro key hcurrent
          rw [← hpruned.live?_iff, hlive] at hcurrent
          contradiction

/-- A handle that is not there cannot be cloned. -/
theorem hold_absent (hreflects : registry.Reflects log) (hgone : key ∉ log.handles) :
    registry.hold key = registry := by
  have hclosed : registry.port? key = none := by
    have hholders := hreflects.holders key
    rwa [if_neg hgone, Option.map_eq_none_iff] at hholders
  unfold port? at hclosed
  unfold PortRegistry.hold change
  have hports : (registry.ports.map fun port =>
      if port.key == key then { port with holders := port.holders + 1 } else port) =
        registry.ports := by
    refine (List.map_congr_left ?_).trans (List.map_id _)
    intro port hport
    have hother := List.find?_eq_none.mp hclosed port hport
    simp [hother]
  rw [hports]

theorem call (hreflects : registry.Reflects log) (one : PortCall α) :
    (registry.call one).Reflects (log.call one) := by
  cases one with
  | getOrOpen name outcome => exact hreflects.getOrOpen name outcome
  | clone key =>
      simp only [PortRegistry.call, PortLog.call]
      by_cases hheld : key ∈ log.handles
      · rw [if_pos hheld]
        exact hreflects.hold hheld
      · rw [if_neg hheld, hreflects.hold_absent hheld]
        exact hreflects
  | drop key => exact hreflects.release key
  | evict name key => exact hreflects.evict name key

theorem calledAll (hreflects : registry.Reflects log) (calls : List (PortCall α)) :
    (registry.calledAll calls).Reflects (log.calledAll calls) := by
  induction calls generalizing registry log with
  | nil => exact hreflects
  | cons one calls ih => exact ih (hreflects.call one)

theorem openCount_eq (hreflects : registry.Reflects log) :
    registry.openCount = {name | ∃ key, log.Current name key}.ncard := by
  have hnames : ((registry.registered.filter fun entry => registry.isOpen entry.2).map
      Prod.fst).Nodup := hreflects.names.sublist (List.filter_sublist.map Prod.fst)
  have hset : {name | ∃ key, log.Current name key} =
      ((registry.registered.filter fun entry => registry.isOpen entry.2).map
        Prod.fst).toFinset := by
    ext name
    simp only [Set.mem_ofPred_eq, Finset.mem_coe, List.mem_toFinset, List.mem_map, List.mem_filter]
    constructor
    · rintro ⟨key, hcurrent⟩
      have hentry := (hreflects.entries name key hcurrent.2.2).mpr ⟨hcurrent.1, hcurrent.2.1⟩
      have hopen := (hreflects.isOpen_iff key).mpr hcurrent.2.2
      exact ⟨(name, key), ⟨hentry, hopen⟩, rfl⟩
    · rintro ⟨⟨other, key⟩, ⟨hentry, hopen⟩, rfl⟩
      have hheld := (hreflects.isOpen_iff key).mp hopen
      have hkept := (hreflects.entries other key hheld).mp hentry
      exact ⟨key, hkept.1, hkept.2, hheld⟩
  rw [hset, Set.ncard_coe_finset, List.toFinset_card_of_nodup hnames, List.length_map]
  rfl

end Reflects

/-! ## What those who share ports can rely on -/

/-- What a registry does after the calls in a log. -/
structure Shares (registry : PortRegistry α) (log : PortLog) : Prop where
  /-- A port is open as long as somebody has a handle of it. -/
  alive : ∀ key, registry.isOpen key = true ↔ key ∈ log.handles
  /-- Of the ports that were not evicted at most one is open under a name. -/
  single : ∀ name key other, log.Current name key → log.Current name other → key = other
  /-- A port that somebody holds is given to those who ask for its name; no opener is run. -/
  shared : ∀ name key, log.Current name key →
    ∀ opener, registry.getOrOpen name opener = (.ok (key, false), registry.prune.hold key)
  /-- Where there is none the opener decides, and a port that it opens is a new one. -/
  opened : ∀ name, (∀ key, ¬log.Current name key) →
    ∀ opener, (registry.getOrOpen name opener).1 =
      (opener ()).map fun _ => (log.opened.length, true)
  /-- An opener that fails leaves everything that is open as it was. -/
  failed : ∀ name opener error, (registry.getOrOpen name opener).1 = .error error →
    let after := (registry.getOrOpen name opener).2
    after.ports = registry.ports ∧ ∀ other, after.live? other = registry.live? other
  /-- A handle evicts the port of which it is one, from the name under which this is registered,
  and no other port. -/
  evicted : ∀ name, ∀ key ∈ log.handles,
    let (done, after) := registry.evict name key
    (done = true ↔ log.Current name key) ∧
      ∀ other, after.registered? other =
        if done = true ∧ other = name then none else registry.registered? other
  counted : registry.openCount = {name | ∃ key, log.Current name key}.ncard

theorem live?_prune {registry : PortRegistry α} {log : PortLog}
    (hreflects : registry.Reflects log) (name : String) :
    registry.prune.live? name = registry.live? name := by
  rw [← hreflects.current?_eq, ← hreflects.prune.current?_eq]

theorem lookup_filter_ne (entries : List (String × Nat)) (name other : String) :
    (entries.filter fun entry => entry.1 != name).lookup other =
      if other = name then none else entries.lookup other := by
  induction entries with
  | nil => simp
  | cons entry entries ih =>
      obtain ⟨first, key⟩ := entry
      by_cases hname : first = name
      · have hgone : ((first, key) :: entries).filter (fun entry => entry.1 != name) =
            entries.filter fun entry => entry.1 != name := by simp [hname]
        rw [hgone, ih, List.lookup_cons]
        by_cases hother : other = name
        · simp [hother]
        · have hskip : (other == first) = false := by simpa [hname] using hother
          simp [hother, hskip]
      · have hkept : ((first, key) :: entries).filter (fun entry => entry.1 != name) =
            (first, key) :: entries.filter fun entry => entry.1 != name := by simp [hname]
        rw [hkept, List.lookup_cons, List.lookup_cons, ih]
        by_cases hother : other = first
        · simp [hother, hname]
        · have hskip : (other == first) = false := by simpa using hother
          simp [hskip]

/-- An opener that fails leaves nothing behind but what is there anyway. -/
theorem getOrOpen_failed {registry : PortRegistry α} {name : String}
    {opener : Unit → Except Error α} {error : Error}
    (hfailed : (registry.getOrOpen name opener).1 = .error error) :
    (registry.getOrOpen name opener).2 = registry.prune := by
  unfold getOrOpen at hfailed ⊢
  cases hlive : registry.prune.live? name with
  | some key => simp [hlive] at hfailed
  | none =>
      cases houtcome : opener () with
      | ok value => simp [hlive, houtcome] at hfailed
      | error other => simp only [hlive]

namespace Reflects

variable {registry : PortRegistry α} {log : PortLog} {name : String} {key : Nat}

theorem live?_vacant (hreflects : registry.Reflects log) (hnone : ∀ key, ¬log.Current name key) :
    registry.live? name = none := by
  rw [Option.eq_none_iff_forall_ne_some]
  intro key hlive
  exact hnone key ((hreflects.live?_iff name key).mp hlive)

theorem getOrOpen_current (hreflects : registry.Reflects log) (hcurrent : log.Current name key)
    (opener : Unit → Except Error α) :
    registry.getOrOpen name opener = (.ok (key, false), registry.prune.hold key) := by
  have hlive := (hreflects.prune.live?_iff name key).mpr hcurrent
  unfold PortRegistry.getOrOpen
  simp only [hlive]

theorem getOrOpen_vacant (hreflects : registry.Reflects log)
    (hnone : ∀ key, ¬log.Current name key) (opener : Unit → Except Error α) :
    (registry.getOrOpen name opener).1 =
      (opener ()).map fun _ => (log.opened.length, true) := by
  unfold PortRegistry.getOrOpen
  simp only [hreflects.prune.live?_vacant hnone]
  cases opener () with
  | error error => rfl
  | ok value =>
      simp only [hreflects.prune.fresh]
      rfl

theorem evict_held (hreflects : registry.Reflects log) (hheld : key ∈ log.handles) :
    let (done, after) := registry.evict name key
    (done = true ↔ log.Current name key) ∧
      ∀ other, after.registered? other =
        if done = true ∧ other = name then none else registry.registered? other := by
  have hcurrent : registry.registered? name = some key ↔ log.Current name key :=
    hreflects.registered?_iff hheld
  unfold PortRegistry.evict
  by_cases hregistered : registry.registered? name = some key
  · simp only [if_pos hregistered]
    refine ⟨by simpa using hcurrent.mp hregistered, ?_⟩
    intro other
    simp [registered?, lookup_filter_ne]
  · simp only [if_neg hregistered]
    refine ⟨by simpa [hcurrent] using hregistered, ?_⟩
    intro other
    simp

end Reflects

/-- Whatever was asked of a registry and whichever handles were cloned, dropped and evicted, an
opener is run if and only if nobody holds a port that is registered under the name, and no two
ports are open under one name unless one of them was evicted. -/
theorem shares_calledAll (calls : List (PortCall α)) :
    ((empty : PortRegistry α).calledAll calls).Shares (PortLog.empty.calledAll calls) := by
  have hreflects := (Reflects.empty (α := α)).calledAll calls
  generalize (empty : PortRegistry α).calledAll calls = registry at hreflects ⊢
  generalize PortLog.empty.calledAll calls = log at hreflects ⊢
  constructor
  case alive => exact hreflects.isOpen_iff
  case single =>
    intro name key other hcurrent hother
    exact hreflects.current_unique hcurrent hother
  case shared => exact fun name key hcurrent => hreflects.getOrOpen_current hcurrent
  case opened => exact fun name hnone => hreflects.getOrOpen_vacant hnone
  case failed =>
    intro name opener error hfailed
    rw [getOrOpen_failed hfailed]
    exact ⟨rfl, fun other => live?_prune hreflects other⟩
  case evicted => exact fun name key hheld => hreflects.evict_held hheld
  case counted => exact hreflects.openCount_eq

/-- The first port is evicted and opened again, and its old handle cannot evict the new one. -/
example :
    let calls : List (PortCall Unit) :=
      [.getOrOpen "S1" (.ok ()), .evict "S1" 0, .getOrOpen "S1" (.ok ()), .evict "S1" 0]
    (PortLog.empty.calledAll calls).current? "S1" = some 1 ∧
      ((empty : PortRegistry Unit).calledAll calls).live? "S1" = some 1 := by
  decide

end PortRegistry

end Modbus
