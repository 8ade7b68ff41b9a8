import LibreRoute.Lib.Kotlin

/-!
The tunnels the application stores, the protocols they use, and the
built-in profile that needs no server.
-/

namespace LibreRoute.Tunnels

open Lib

inductive TransportType
  | yandex
  | vyandex
  | max
  | cups
  | mailru
  | mqtt
  | jitsi
  | jazz
  | channelGroup
  | directDpi
  deriving DecidableEq, Repr

namespace TransportType

def entries : List TransportType :=
  [yandex, vyandex, max, cups, mailru, mqtt, jitsi, jazz, channelGroup, directDpi]

def name : TransportType → String
  | yandex => "yandex"
  | vyandex => "vyandex"
  | max => "max"
  | cups => "cups"
  | mailru => "mailru"
  | mqtt => "mqtt"
  | jitsi => "jitsi"
  | jazz => "jazz"
  | channelGroup => "channelGroup"
  | directDpi => "directDpi"

def cliName : TransportType → String
  | yandex => "yandex"
  | vyandex => "vyandex"
  | max => "oneme"
  | cups => "cupsonline"
  | mailru => "mailru"
  | mqtt => "mqtt"
  | jitsi => "jitsi"
  | jazz => "jazz"
  | channelGroup => "channel-group"
  | directDpi => "direct-dpi"

/-- MQTT is still parsed, and excluded from the routes. -/
def isAvailable (t : TransportType) : Bool := t != mqtt

def fromOrNull (raw : String) : Option TransportType :=
  if isBlank raw then none
  else entries.find? fun t =>
    equalsIgnoreCase t.name raw || equalsIgnoreCase t.cliName raw ||
      (t == cups && (equalsIgnoreCase raw "cupsonline" || equalsIgnoreCase raw "cups.online")) ||
      (t == max && equalsIgnoreCase raw "oneme") ||
      (t == mailru && (equalsIgnoreCase raw "mail" || equalsIgnoreCase raw "mail.ru" ||
        equalsIgnoreCase raw "mail_ru"))

/-- An unknown name counts as available. -/
def isAvailableName (raw : String) : Bool := (fromOrNull raw).all isAvailable

theorem fromOrNull_name (t : TransportType) : fromOrNull t.name = some t := by
  cases t <;> decide

end TransportType

structure Tunnel where
  id : Int
  name : String
  transportType : String
  transportConnPayload : List String
  encryptionKey : Option String := none
  /-- A route hint; administrative authority still requires a verified grant. -/
  serverId : Option String := none
  managedProfileId : Option String := none
  deriving DecidableEq, Repr

namespace Tunnel

def isAvailable (t : Tunnel) : Bool := TransportType.isAvailableName t.transportType

/-- `Tunnel.toString()`. -/
def text (t : Tunnel) : String :=
  "Tunnel(id=" ++ longText t.id ++ ", name=" ++ t.name ++ ", transportType=" ++ t.transportType ++
    ", transportConnPayload=[" ++ joinToString t.transportConnPayload ", " ++
    "], encryptionKey=" ++ t.encryptionKey.getD "null" ++ ", serverId=" ++
    t.serverId.getD "null" ++ ", managedProfileId=" ++ t.managedProfileId.getD "null" ++ ")"

end Tunnel

/-! ### The built-in profile -/

namespace DirectDpiProfile

def builtInId : Int := 0x4c5244495044

def create : Tunnel where
  id := builtInId
  name := "Прямой обход DPI · zapret"
  transportType := TransportType.directDpi.name
  transportConnPayload :=
    ["--role=client", "--transport", TransportType.directDpi.cliName, "--dpi-block-quic=true"]
  encryptionKey := some ""

def isDirect (t : Tunnel) : Bool :=
  TransportType.fromOrNull t.transportType == some .directDpi

def optionValue (payload : List String) (flag : String) : Option String :=
  match payload.find? fun item => startsWithIgnoreCase item (flag ++ "=") with
  | some item => some (trim (substringAfter item '='))
  | none =>
    match payload.dropWhile fun item => ! equalsIgnoreCase item flag with
    | _ :: value :: _ => if startsWith value "-" then none else some value
    | _ => none

/-- The payload without the flag: a flag that stands alone takes its value with it. -/
def removeOption (flag : String) : List String → List String
  | [] => []
  | [item] =>
    if equalsIgnoreCase item flag || startsWithIgnoreCase item (flag ++ "=") then [] else [item]
  | item :: value :: rest =>
    if equalsIgnoreCase item flag then
      if startsWith value "-" then removeOption flag (value :: rest) else removeOption flag rest
    else if startsWithIgnoreCase item (flag ++ "=") then removeOption flag (value :: rest)
    else item :: removeOption flag (value :: rest)

def replaceOption (payload : List String) (flag value : String) : List String :=
  removeOption flag payload ++ [flag ++ "=" ++ value]

/-- The payload with the flag set to the value, unless it already is. -/
def ensureOption (payload : List String) (flag value : String) : List String :=
  if (optionValue payload flag).any fun v => equalsIgnoreCase v value then payload
  else replaceOption payload flag value

def configuredPayload (payload : List String) : List String :=
  let payload := ensureOption (ensureOption payload "--role" "client")
    "--transport" TransportType.directDpi.cliName
  if (optionValue payload "--dpi-block-quic").isNone then payload ++ ["--dpi-block-quic=true"]
  else payload

/-- Keeps a profile of an older build runnable. -/
def ensureConfigured (t : Tunnel) : Tunnel :=
  if isDirect t then
    if configuredPayload t.transportConnPayload = t.transportConnPayload then t
    else { t with
      transportConnPayload := configuredPayload t.transportConnPayload
      encryptionKey := some "" }
  else t

theorem isDirect_create : isDirect create = true := by decide

theorem isAvailable_create : create.isAvailable = true := by decide

theorem isAvailable_of_isDirect {t : Tunnel} (h : isDirect t = true) : t.isAvailable = true := by
  have hname : TransportType.fromOrNull t.transportType = some .directDpi := by
    simpa [isDirect] using h
  simp [Tunnel.isAvailable, TransportType.isAvailableName, hname, TransportType.isAvailable]

theorem ensureConfigured_of_not_direct {t : Tunnel} (h : isDirect t = false) :
    ensureConfigured t = t := by
  simp [ensureConfigured, h]

theorem ensureConfigured_eq_self_iff {t : Tunnel} : ensureConfigured t = t ↔
    (isDirect t = true → configuredPayload t.transportConnPayload = t.transportConnPayload) := by
  unfold ensureConfigured
  split_ifs with hdirect hpayload
  · simp [hpayload]
  · exact iff_of_false (fun h => hpayload (congrArg Tunnel.transportConnPayload h))
      fun h => hpayload (h hdirect)
  · simp [hdirect]

theorem ensureConfigured_eq_self_of_key {t : Tunnel}
    (h : (ensureConfigured t).encryptionKey ≠ some "") : ensureConfigured t = t := by
  unfold ensureConfigured at h ⊢
  split_ifs at h ⊢ <;> simp_all

@[simp] theorem ensureConfigured_id (t : Tunnel) : (ensureConfigured t).id = t.id := by
  unfold ensureConfigured
  split_ifs <;> rfl

@[simp] theorem ensureConfigured_transportType (t : Tunnel) :
    (ensureConfigured t).transportType = t.transportType := by
  unfold ensureConfigured
  split_ifs <;> rfl

/-! ### Configuring a payload twice

An item that names a flag names no other flag, so setting one option leaves
the others as they are. -/

/-- The item is the flag, or the flag with a value. -/
def Names (flag item : String) : Prop :=
  flag.toList.map foldCase <+: item.toList.map foldCase

variable {item : String}

theorem names_of_equals {flag : String} (h : equalsIgnoreCase item flag = true) :
    Names flag item := by
  have heq : item.toList.map foldCase = flag.toList.map foldCase := by
    simpa [equalsIgnoreCase] using h
  exact ⟨[], by rw [List.append_nil, heq]⟩

theorem names_of_startsWith {flag : String} (h : startsWithIgnoreCase item (flag ++ "=") = true) :
    Names flag item := by
  have hstart : (flag ++ "=").toList.map foldCase <+: item.toList.map foldCase := by
    simpa [startsWithIgnoreCase] using h
  rw [String.toList_append, List.map_append] at hstart
  exact (List.prefix_append _ _).trans hstart

/-- The two flags differ in a letter. -/
def Unrelated (flag flag' : String) : Prop :=
  ¬ flag.toList.map foldCase <+: flag'.toList.map foldCase ∧
    ¬ flag'.toList.map foldCase <+: flag.toList.map foldCase

instance (flag flag' : String) : Decidable (Unrelated flag flag') :=
  inferInstanceAs (Decidable (_ ∧ _))

def IsFlag (flag : String) : Prop := (flag.toList.map foldCase).head? = some '-'

theorem startsWith_dash {flag : String} (hflag : IsFlag flag) (h : Names flag item) :
    startsWith item "-" = true := by
  obtain ⟨rest, hrest⟩ := h
  unfold IsFlag at hflag
  rcases hitem : item.toList with _ | ⟨c, cs⟩
  · rw [hitem] at hrest
    simp only [List.map_nil, List.append_eq_nil_iff] at hrest
    simp [hrest.1] at hflag
  · rw [hitem] at hrest
    rcases hf : flag.toList.map foldCase with _ | ⟨d, ds⟩
    · simp [hf] at hflag
    · rw [hf] at hrest hflag
      simp only [List.cons_append, List.map_cons, List.cons.injEq, List.head?_cons,
        Option.some.injEq] at hrest hflag
      obtain rfl : c = '-' := foldCase_eq_dash (hrest.1.symm.trans hflag)
      simp [startsWith, hitem]

section Options

variable {flag flag' : String} {p : List String} {v value : String}

theorem not_names_of_names (hunrelated : Unrelated flag flag') (h : Names flag item) :
    ¬ Names flag' item := fun h' =>
  (List.prefix_or_prefix_of_prefix h h').elim hunrelated.1 hunrelated.2

theorem not_startsWith_of_names (hunrelated : Unrelated flag flag') (h : Names flag item) :
    startsWithIgnoreCase item (flag' ++ "=") = false := by
  by_contra h'
  exact not_names_of_names hunrelated h (names_of_startsWith (by simpa using h'))

theorem not_equals_of_names (hunrelated : Unrelated flag flag') (h : Names flag item) :
    equalsIgnoreCase item flag' = false := by
  by_contra h'
  exact not_names_of_names hunrelated h (names_of_equals (by simpa using h'))

theorem removeOption_find_self (p : List String) :
    (removeOption flag p).find? (fun item => startsWithIgnoreCase item (flag ++ "=")) = none := by
  fun_induction removeOption flag p <;> simp_all

theorem removeOption_find (hflag : IsFlag flag') (hunrelated : Unrelated flag flag')
    (p : List String) :
    (removeOption flag p).find? (fun item => startsWithIgnoreCase item (flag' ++ "=")) =
      p.find? (fun item => startsWithIgnoreCase item (flag' ++ "=")) := by
  have hplain : ∀ value : String, ¬ startsWith value "-" = true →
      startsWithIgnoreCase value (flag' ++ "=") = false := by
    intro value hvalue
    by_contra h
    exact hvalue (startsWith_dash hflag (names_of_startsWith (by simpa using h)))
  have hskip : ∀ {item : String} (q : List String), Names flag item →
      (item :: q).find? (fun item => startsWithIgnoreCase item (flag' ++ "=")) =
        q.find? (fun item => startsWithIgnoreCase item (flag' ++ "=")) := by
    intro item q hnames
    rw [List.find?_cons, not_startsWith_of_names hunrelated hnames]
  fun_induction removeOption flag p with
  | case1 => rfl
  | case2 item h =>
    have hnames : Names flag item :=
      (Bool.or_eq_true _ _ ▸ h).elim names_of_equals names_of_startsWith
    simp [not_startsWith_of_names hunrelated hnames]
  | case3 item h => rfl
  | case4 item value rest heq hdash ih => exact ih.trans (hskip _ (names_of_equals heq)).symm
  | case5 item value rest heq hdash ih =>
    rw [hskip _ (names_of_equals heq), List.find?_cons, hplain value hdash]
    exact ih
  | case6 item value rest hne hstart ih =>
    exact ih.trans (hskip _ (names_of_startsWith hstart)).symm
  | case7 item value rest hne hstart ih =>
    generalize removeOption flag (value :: rest) = q at ih
    generalize value :: rest = q' at ih
    rw [List.find?_cons, ih, List.find?_cons]

/-- The value that follows a flag which stands alone. -/
def spacedValue (payload : List String) (flag : String) : Option String :=
  match payload.dropWhile fun item => ! equalsIgnoreCase item flag with
  | _ :: value :: _ => if startsWith value "-" then none else some value
  | _ => none

theorem spacedValue_cons_of_ne (h : equalsIgnoreCase item flag = false) (p : List String) :
    spacedValue (item :: p) flag = spacedValue p flag := by
  simp [spacedValue, h]

theorem spacedValue_cons_of_eq (h : equalsIgnoreCase item flag = true) (p : List String) :
    spacedValue (item :: value :: p) flag =
      if startsWith value "-" then none else some value := by
  simp [spacedValue, h]

theorem spacedValue_append (h : spacedValue p flag = some v) (q : List String) :
    spacedValue (p ++ q) flag = some v := by
  induction p with
  | nil => simp [spacedValue] at h
  | cons item p ih =>
    rcases heq : equalsIgnoreCase item flag with _ | _
    · rw [spacedValue_cons_of_ne heq] at h
      rw [List.cons_append, spacedValue_cons_of_ne heq, ih h]
    · rcases p with _ | ⟨value, p⟩
      · simp [spacedValue, heq] at h
      · rw [spacedValue_cons_of_eq heq] at h
        rw [List.cons_append, List.cons_append, spacedValue_cons_of_eq heq, h]

theorem removeOption_cons_of_not_names (h : ¬ Names flag item) (p : List String) :
    removeOption flag (item :: p) = item :: removeOption flag p := by
  have heq : ¬ equalsIgnoreCase item flag = true := fun h' => h (names_of_equals h')
  have hstart : ¬ startsWithIgnoreCase item (flag ++ "=") = true := fun h' =>
    h (names_of_startsWith h')
  cases p with
  | nil => simp [removeOption, heq, hstart]
  | cons value p => simp [removeOption, heq, hstart]

theorem removeOption_spacedValue (hflag : IsFlag flag) (hflag' : IsFlag flag')
    (hunrelated : Unrelated flag flag') (h : spacedValue p flag' = some v) :
    spacedValue (removeOption flag p) flag' = some v := by
  fun_induction removeOption flag p with
  | case1 => exact h
  | case2 item hitem =>
    -- a flag at the end has no value
    rcases heq : equalsIgnoreCase item flag' with _ | _ <;> simp [spacedValue, heq] at h
  | case3 item hitem => exact h
  | case4 item value rest heq hdash ih =>
    rw [spacedValue_cons_of_ne (not_equals_of_names hunrelated (names_of_equals heq))] at h
    exact ih h
  | case5 item value rest heq hdash ih =>
    have hvalue : equalsIgnoreCase value flag' = false := by
      by_contra h'
      exact hdash (startsWith_dash hflag' (names_of_equals (by simpa using h')))
    rw [spacedValue_cons_of_ne (not_equals_of_names hunrelated (names_of_equals heq)),
      spacedValue_cons_of_ne hvalue] at h
    exact ih h
  | case6 item value rest hne hstart ih =>
    rw [spacedValue_cons_of_ne (not_equals_of_names hunrelated (names_of_startsWith hstart))] at h
    exact ih h
  | case7 item value rest hne hstart ih =>
    rcases heq : equalsIgnoreCase item flag' with _ | _
    · rw [spacedValue_cons_of_ne heq] at h ⊢
      exact ih h
    · rw [spacedValue_cons_of_eq heq] at h
      split at h
      · simp at h
      · next hdash =>
          -- a value is no flag, so it stays behind the flag
          have hvalue : ¬ Names flag value := fun hnames =>
            hdash (startsWith_dash hflag hnames)
          rw [removeOption_cons_of_not_names hvalue, spacedValue_cons_of_eq heq, if_neg hdash]
          exact h

theorem optionValue_eq (p : List String) (flag : String) :
    optionValue p flag =
      match p.find? fun item => startsWithIgnoreCase item (flag ++ "=") with
      | some item => some (trim (substringAfter item '='))
      | none => spacedValue p flag := rfl

def HasOption (p : List String) (flag value : String) : Prop :=
  (optionValue p flag).any (fun v => equalsIgnoreCase v value) = true

theorem ensureOption_of_hasOption (h : HasOption p flag value) :
    ensureOption p flag value = p := if_pos h

theorem optionValue_append (h : optionValue p flag = some v)
    (hitem : startsWithIgnoreCase item (flag ++ "=") = false) :
    optionValue (p ++ [item]) flag = some v := by
  rw [optionValue_eq] at h ⊢
  rw [List.find?_append]
  rcases hfind : p.find? fun item => startsWithIgnoreCase item (flag ++ "=") with _ | found
  · rw [hfind] at h
    simpa [hitem] using spacedValue_append h [item]
  · simpa [hfind] using h

theorem optionValue_append_self (hitem : startsWithIgnoreCase item (flag ++ "=") = true)
    (p : List String) : (optionValue (p ++ [item]) flag).isNone = false := by
  rw [optionValue_eq, List.find?_append]
  rcases p.find? fun item => startsWithIgnoreCase item (flag ++ "=") with _ | found <;> simp [hitem]

theorem optionValue_removeOption (hflag : IsFlag flag) (hflag' : IsFlag flag')
    (hunrelated : Unrelated flag flag') (h : optionValue p flag' = some v) :
    optionValue (removeOption flag p) flag' = some v := by
  rw [optionValue_eq] at h ⊢
  rw [removeOption_find hflag' hunrelated]
  rcases hfind : p.find? fun item => startsWithIgnoreCase item (flag' ++ "=") with _ | found
  · rw [hfind] at h
    exact removeOption_spacedValue hflag hflag' hunrelated h
  · rw [hfind] at h
    exact h

theorem HasOption.of_value {q : List String} (h : HasOption p flag value)
    (hq : ∀ v, optionValue p flag = some v → optionValue q flag = some v) :
    HasOption q flag value := by
  unfold HasOption at h ⊢
  rcases hv : optionValue p flag with _ | v
  · simp [hv] at h
  · rw [hq v hv, ← hv]
    exact h

theorem HasOption.ensureOption (hflag : IsFlag flag) (hflag' : IsFlag flag')
    (hunrelated : Unrelated flag flag') {value' : String}
    (hitem : startsWithIgnoreCase (flag ++ "=" ++ value) (flag' ++ "=") = false)
    (h : HasOption p flag' value') : HasOption (ensureOption p flag value) flag' value' := by
  unfold DirectDpiProfile.ensureOption
  split
  · exact h
  · exact h.of_value fun v hv =>
      optionValue_append (optionValue_removeOption hflag hflag' hunrelated hv) hitem

theorem hasOption_ensureOption
    (hitem : startsWithIgnoreCase (flag ++ "=" ++ value) (flag ++ "=") = true)
    (hvalue : equalsIgnoreCase (trim (substringAfter (flag ++ "=" ++ value) '=')) value = true)
    (p : List String) : HasOption (DirectDpiProfile.ensureOption p flag value) flag value := by
  unfold DirectDpiProfile.ensureOption
  split
  · assumption
  · rw [HasOption, replaceOption, optionValue_eq, List.find?_append, removeOption_find_self]
    simp [hitem, hvalue]

end Options

theorem hasOption_configuredPayload {p : List String} {flag value : String}
    (h : HasOption (ensureOption (ensureOption p "--role" "client") "--transport"
      TransportType.directDpi.cliName) flag value)
    (hflag : startsWithIgnoreCase "--dpi-block-quic=true" (flag ++ "=") = false) :
    HasOption (configuredPayload p) flag value := by
  unfold configuredPayload
  dsimp only
  split
  · exact h.of_value fun v hv => optionValue_append hv hflag
  · exact h

theorem hasOption_role (p : List String) :
    HasOption (configuredPayload p) "--role" "client" :=
  hasOption_configuredPayload
    ((hasOption_ensureOption (by decide) (by decide +kernel) p).ensureOption
    (by unfold IsFlag; decide) (by unfold IsFlag; decide) (by decide) (by decide)) (by decide)

theorem hasOption_transport (p : List String) :
    HasOption (configuredPayload p) "--transport" TransportType.directDpi.cliName :=
  hasOption_configuredPayload (hasOption_ensureOption (by decide) (by decide +kernel) _) (by decide)

theorem optionValue_quic (p : List String) :
    (optionValue (configuredPayload p) "--dpi-block-quic").isNone = false := by
  unfold configuredPayload
  dsimp only
  split
  · exact optionValue_append_self (by decide) _
  · next hsome => rwa [Bool.not_eq_true] at hsome

theorem configuredPayload_configuredPayload (p : List String) :
    configuredPayload (configuredPayload p) = configuredPayload p := by
  generalize hq : configuredPayload p = q
  have hrole : HasOption q "--role" "client" := hq ▸ hasOption_role p
  have htransport : HasOption q "--transport" TransportType.directDpi.cliName :=
    hq ▸ hasOption_transport p
  have hquic : (optionValue q "--dpi-block-quic").isNone = false := hq ▸ optionValue_quic p
  unfold configuredPayload
  rw [ensureOption_of_hasOption hrole, ensureOption_of_hasOption htransport]
  simp [hquic]

@[simp] theorem ensureConfigured_ensureConfigured (t : Tunnel) :
    ensureConfigured (ensureConfigured t) = ensureConfigured t := by
  rcases hdirect : isDirect t with _ | _
  · rw [ensureConfigured_of_not_direct hdirect, ensureConfigured_of_not_direct hdirect]
  · by_cases hpayload : configuredPayload t.transportConnPayload = t.transportConnPayload
    · have hsame : ensureConfigured t = t := by simp [ensureConfigured, hdirect, hpayload]
      rw [hsame, hsame]
    · have hsame : ensureConfigured t = { t with
          transportConnPayload := configuredPayload t.transportConnPayload
          encryptionKey := some "" } := by
        simp [ensureConfigured, hdirect, hpayload]
      rw [hsame]
      have hdirect' : isDirect { t with
          transportConnPayload := configuredPayload t.transportConnPayload
          encryptionKey := some "" } = true := hdirect
      simp [ensureConfigured, hdirect', configuredPayload_configuredPayload]

theorem ensureConfigured_create : ensureConfigured create = create := by decide

end DirectDpiProfile

end LibreRoute.Tunnels
