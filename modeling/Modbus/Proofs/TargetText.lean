import Mathlib.Tactic
import Modbus.Target

/-!
# Targets that are read back

A target is written with its host between brackets if there is a colon in it, and read by
where brackets and colons stand.  Reading goes by the first closing bracket behind an
opening one at the front, and otherwise by the last colon, so the two agree except where a
host has brackets of its own in the way.
-/

namespace Modbus

/-! ## Cutting text -/

namespace Text.Split

variable {separator : Char} {before behind : List Char}

theorem first?_eq_some_iff {text : List Char} :
    first? separator text = some (before, behind) ↔
      text = before ++ separator :: behind ∧ separator ∉ before := by
  induction text generalizing before with
  | nil => simp [first?]
  | cons character rest ih =>
      by_cases hhere : character = separator
      · rw [first?, if_pos hhere, hhere]
        cases before with
        | nil => simp
        | cons first before =>
            constructor
            · intro hsame
              simp at hsame
            · rintro ⟨hsame, hbefore⟩
              obtain ⟨rfl, -⟩ := List.cons.inj hsame
              exact absurd List.mem_cons_self hbefore
      · rw [first?, if_neg hhere]
        cases before with
        | nil => simp [hhere]
        | cons first before =>
            constructor
            · intro hsome
              obtain ⟨parts, hparts, hsame⟩ := Option.map_eq_some_iff.mp hsome
              obtain ⟨hbefore, rfl⟩ := Prod.mk.inj hsame
              obtain ⟨rfl, rfl⟩ := List.cons.inj hbefore
              obtain ⟨hrest, hnone⟩ := ih.mp hparts
              exact ⟨by rw [hrest, List.cons_append], by simp [hnone, Ne.symm hhere]⟩
            · rintro ⟨hsame, hbefore⟩
              obtain ⟨rfl, hrest⟩ := List.cons.inj hsame
              rw [ih.mpr ⟨hrest, fun hmem => hbefore (List.mem_cons_of_mem _ hmem)⟩]
              rfl

theorem first?_append (hbefore : separator ∉ before) :
    first? separator (before ++ separator :: behind) = some (before, behind) :=
  first?_eq_some_iff.mpr ⟨rfl, hbefore⟩

theorem last?_append (hbehind : separator ∉ behind) :
    last? separator (before ++ separator :: behind) = some (before, behind) := by
  have hreverse : (before ++ separator :: behind).reverse =
      behind.reverse ++ separator :: before.reverse := by
    simp
  rw [last?, hreverse, first?_append (by simpa using hbehind)]
  simp

end Text.Split

/-! ## Numbers -/

namespace Text.Natural

theorem digit?_of_isDigit {character : Char} (hdigit : character.isDigit) :
    digit? 10 character = some (character.toNat - '0'.toNat) := by
  obtain ⟨hlow, hhigh⟩ : '0'.toNat ≤ character.toNat ∧ character.toNat ≤ '9'.toNat := by
    simpa [Char.isDigit, UInt32.le_iff_toNat_le] using hdigit
  have hrange : '0' ≤ character ∧ character ≤ '9' := ⟨hlow, hhigh⟩
  have hwidth : '9'.toNat - '0'.toNat = 9 := rfl
  have hvalue : character.toNat - '0'.toNat < 10 := by omega
  rw [digit?, if_pos hrange]
  exact Option.filter_some_pos (decide_eq_true hvalue)

theorem le_ofDigitChars (text : List Char) (value : Nat) :
    value ≤ Nat.ofDigitChars 10 text value := by
  rw [Nat.ofDigitChars_eq_ofDigitChars_zero]
  exact (Nat.le_mul_of_pos_left value (by positivity)).trans (Nat.le_add_right _ _)

theorem digits_eq_ok {most value : Nat} {text : List Char}
    (hdigits : ∀ character ∈ text, character.isDigit)
    (hmost : Nat.ofDigitChars 10 text value ≤ most) :
    digits 10 most value text = .ok (Nat.ofDigitChars 10 text value) := by
  induction text generalizing value with
  | nil => simp [digits]
  | cons character rest ih =>
      have hfirst := digit?_of_isDigit (hdigits character List.mem_cons_self)
      rw [Nat.ofDigitChars_cons, Nat.mul_comm] at hmost ⊢
      -- What has been read so far is no more than all of it, so it is not too large either.
      have hfits : value * 10 + (character.toNat - '0'.toNat) ≤ most :=
        (le_ofDigitChars rest _).trans hmost
      rw [digits, hfirst]
      simp only [Nat.not_lt.mpr hfits, if_false]
      exact ih (fun other hother => hdigits other (List.mem_cons_of_mem _ hother)) hmost

theorem parse?_toDigits {number most : Nat} (hmost : number ≤ most) :
    parse? 10 most (Nat.toDigits 10 number) = some number := by
  have hdigits : ∀ character ∈ Nat.toDigits 10 number, character.isDigit := fun _ hcharacter =>
    Nat.isDigit_of_mem_toDigits (by decide) (by decide) hcharacter
  have hread : digits 10 most 0 (Nat.toDigits 10 number) = .ok number := by
    rw [digits_eq_ok hdigits (by rwa [Nat.ofDigitChars_ten_toDigits]),
      Nat.ofDigitChars_ten_toDigits]
  have hparse : parse 10 most (Nat.toDigits 10 number) = .ok number := by
    unfold parse
    split
    next hnone => exact absurd hnone Nat.toDigits_ne_nil
    next hplus => simp [hplus] at hdigits
    next rest hplus => simp [hplus] at hdigits
    next => exact hread
  rw [parse?, hparse]
  rfl

end Text.Natural

namespace Target

open Text

/-! ## Hosts and ports -/

def portDigits (port : UInt16) : List Char := Nat.toDigits 10 port.toNat

theorem isDigit_of_mem_portDigits {port : UInt16} {character : Char}
    (hcharacter : character ∈ portDigits port) : character.isDigit :=
  Nat.isDigit_of_mem_toDigits (by decide) (by decide) hcharacter

theorem port_portDigits (number : UInt16) : port (portDigits number) = .ok number := by
  have hmost : number.toNat ≤ 65535 := Nat.le_of_lt_succ number.toNat_lt
  rw [port, portDigits, Natural.parse?_toDigits hmost]
  simp

theorem toList_hostPort (host : String) (port : UInt16) :
    (hostPort host port).toList =
      if ':' ∈ host.toList then '[' :: (host.toList ++ ']' :: ':' :: portDigits port)
      else host.toList ++ ':' :: portDigits port := by
  unfold hostPort portDigits
  split <;> rename_i hcolon
  · rw [if_pos (by simpa using hcolon)]
    simp [Nat.toString_eq_repr, Nat.toList_repr]
  · rw [if_neg (by simpa using hcolon)]
    simp [Nat.toString_eq_repr, Nat.toList_repr]

/-- Whether it can be seen in a text where a host ends: if it has a colon no closing bracket
stands in it, and otherwise no opening bracket at its front. -/
def Delimited (host : String) : Prop :=
  if ':' ∈ host.toList then ']' ∉ host.toList else host.toList.head? ≠ some '['

theorem readHost_bracketed {front rest : List Char} (hfront : ']' ∉ front) :
    readHost ('[' :: (front ++ ']' :: rest)) =
      (bracketedPort ('[' :: (front ++ ']' :: rest)) rest).map fun port =>
        (String.ofList front, port) := by
  rw [readHost, Split.first?_append hfront]

theorem readHost_plain {front rest : List Char} (hbracket : front.head? ≠ some '[')
    (hfront : ':' ∉ front) (hrest : ':' ∉ rest) :
    readHost (front ++ ':' :: rest) = (port rest).map fun port => (String.ofList front, port) := by
  unfold readHost
  split
  next bracketed hsame =>
    cases front with
    | nil => simp at hsame
    | cons character front =>
        obtain ⟨rfl, -⟩ := List.cons.inj hsame
        exact absurd rfl hbracket
  next =>
    rw [Split.last?_append hrest]
    simp [hfront]

/-- A host that is read behind an opening bracket ends at the first closing one. -/
theorem bracketed_of_readHost {text : List Char} {host : String} {number : UInt16}
    (hread : readHost ('[' :: text) = .ok (host, number)) :
    ']' ∉ host.toList ∧ ∃ behind, text = host.toList ++ ']' :: behind := by
  rw [readHost] at hread
  split at hread
  next => contradiction
  next before behind hfirst =>
    obtain ⟨hparts, hbefore⟩ := Split.first?_eq_some_iff.mp hfirst
    cases hport : bracketedPort ('[' :: text) behind with
    | error fault =>
        rw [hport] at hread
        contradiction
    | ok read =>
        rw [hport] at hread
        obtain ⟨rfl, -⟩ := Prod.mk.inj (Except.ok.inj hread)
        rw [String.toList_ofList]
        exact ⟨hbefore, behind, hparts⟩

theorem readHost_hostPort_iff (host : String) (number : UInt16) :
    readHost (hostPort host number).toList = .ok (host, number) ↔ Delimited host := by
  have hdigits : ∀ character ∈ portDigits number, character.isDigit := fun _ hmem =>
    isDigit_of_mem_portDigits hmem
  rw [toList_hostPort, Delimited]
  split
  next hcolon =>
    constructor
    · intro hread
      exact (bracketed_of_readHost hread).1
    · intro hhost
      rw [readHost_bracketed hhost, bracketedPort, port_portDigits]
      simp [Except.map]
  next hcolon =>
    constructor
    · intro hread hopening
      obtain ⟨tail, htail⟩ := List.head?_eq_some_iff.mp hopening
      rw [htail, List.cons_append] at hread
      obtain ⟨-, behind, hparts⟩ := bracketed_of_readHost hread
      rw [htail] at hparts
      -- The closing bracket would be a digit of the port.
      have hrest : portDigits number = ']' :: behind := by
        have hdrop := congrArg (List.drop (tail.length + 1)) hparts
        simpa using hdrop
      have hbracket := hdigits ']' (hrest ▸ List.mem_cons_self)
      contradiction
    · intro hbracket
      have hcolons : ':' ∉ portDigits number := fun hmem => by
        have hdigit := hdigits ':' hmem
        contradiction
      rw [readHost_plain hbracket hcolon hcolons, port_portDigits]
      simp [Except.map]

/-! ## Targets -/

/-- Whether a target can be seen in its text. -/
def Legible : Target → Prop
  | device name => name ≠ ""
  | tcp host _ | udp host _ => Delimited host

theorem hostPort_ne_empty (host : String) (number : UInt16) : hostPort host number ≠ "" := by
  intro hempty
  have hnil := congrArg String.toList hempty
  rw [toList_hostPort] at hnil
  split at hnil <;> simp at hnil

theorem map_readHost_iff {make : String × UInt16 → Target} (hmake : make.Injective)
    (host : String) (number : UInt16) :
    (readHost (hostPort host number).toList).map make = .ok (make (host, number)) ↔
      Delimited host := by
  rw [← readHost_hostPort_iff host number]
  cases readHost (hostPort host number).toList with
  | error fault => simp [Except.map]
  | ok read => simp [Except.map, hmake.eq_iff]

theorem parse_eq {text rest : String} {scheme : List Char}
    (htext : text.toList = scheme ++ ':' :: rest.toList) (hscheme : ':' ∉ scheme)
    (hrest : rest ≠ "") :
    parse text =
      match String.ofList scheme with
      | "device" => .ok (.device rest)
      | "tcp" => (readHost rest.toList).map fun (host, port) => .tcp host port
      | "udp" => (readHost rest.toList).map fun (host, port) => .udp host port
      | scheme => .error (.unknownScheme scheme text) := by
  have hnil : rest.toList ≠ [] := by simpa using hrest
  obtain ⟨first, behind, hparts⟩ := List.exists_cons_of_ne_nil hnil
  obtain rfl : rest = String.ofList (first :: behind) := by rw [← hparts, String.ofList_toList]
  rw [String.toList_ofList] at htext ⊢
  have hcut : Split.first? ':' text.toList = some (scheme, first :: behind) := by
    rw [htext, Split.first?_append hscheme]
  unfold parse
  exact hcut ▸ rfl

/-- A target is read back from its text if and only if it can be seen there. -/
theorem parse_toText_iff (target : Target) :
    parse target.toText = .ok target ↔ target.Legible := by
  cases target with
  | device name =>
      by_cases hname : name = ""
      · have hrefused : parse (device "").toText = .error (.namelessTarget "device:") := by
          decide +kernel
        rw [hname, hrefused]
        simp [Legible]
      · have htext : (device name).toText.toList =
            ['d', 'e', 'v', 'i', 'c', 'e'] ++ ':' :: name.toList := by
          simp [toText]
        have hparse : parse (device name).toText = .ok (device name) :=
          parse_eq htext (by decide) hname
        simp [hparse, Legible, hname]
  | tcp host number =>
      have htext : (tcp host number).toText.toList =
          ['t', 'c', 'p'] ++ ':' :: (hostPort host number).toList := by
        simp [toText]
      have hparse : parse (tcp host number).toText =
          (readHost (hostPort host number).toList).map fun (host, port) => .tcp host port :=
        parse_eq htext (by decide) (hostPort_ne_empty host number)
      rw [hparse]
      exact map_readHost_iff (fun _ _ hsame => Prod.ext_iff.mpr (by simpa using hsame)) host number
  | udp host number =>
      have htext : (udp host number).toText.toList =
          ['u', 'd', 'p'] ++ ':' :: (hostPort host number).toList := by
        simp [toText]
      have hparse : parse (udp host number).toText =
          (readHost (hostPort host number).toList).map fun (host, port) => .udp host port :=
        parse_eq htext (by decide) (hostPort_ne_empty host number)
      rw [hparse]
      exact map_readHost_iff (fun _ _ hsame => Prod.ext_iff.mpr (by simpa using hsame)) host number

/-- A device has a name, and no bracket stands in a host. -/
def Bracketless : Target → Prop
  | device name => name ≠ ""
  | tcp host _ | udp host _ => '[' ∉ host.toList ∧ ']' ∉ host.toList

theorem delimited_of_not_mem {host : String} (hopening : '[' ∉ host.toList)
    (hclosing : ']' ∉ host.toList) : Delimited host := by
  unfold Delimited
  split
  next => exact hclosing
  next => exact fun hhead => hopening (List.mem_of_head? hhead)

/-- A target without brackets is read back as it was, whatever else stands in its name or host. -/
theorem parse_toText {target : Target} (hbracketless : target.Bracketless) :
    parse target.toText = .ok target := by
  rw [parse_toText_iff]
  cases target with
  | device name => exact hbracketless
  | tcp host number => exact delimited_of_not_mem hbracketless.1 hbracketless.2
  | udp host number => exact delimited_of_not_mem hbracketless.1 hbracketless.2

/-- A host with colons is written between brackets. -/
theorem parse_toText_colons :
    (udp "fe80::1" 1502).Bracketless ∧ (udp "fe80::1" 1502).toText = "udp:[fe80::1]:1502" ∧
      parse "udp:[fe80::1]:1502" = .ok (udp "fe80::1" 1502) := by
  have hbracketless : (udp "fe80::1" 1502).Bracketless := by
    simp [Bracketless]
  have htext : (udp "fe80::1" 1502).toText = "udp:[fe80::1]:1502" := by
    decide +kernel
  exact ⟨hbracketless, htext, htext ▸ parse_toText hbracketless⟩

example : parse (tcp "" 0).toText = .ok (tcp "" 0) := by
  decide +kernel

end Target

end Modbus
