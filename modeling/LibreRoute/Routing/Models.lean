import LibreRoute.Admin.Models
import LibreRoute.Bridge.Target

/-!
The profiles of the local bypass, and the rules that send a site or an
application through one of them (data/ZapretProfile.kt,
data/SiteRouting.kt, data/AppRouting.kt).

A state of rules is valid only together with a state of profiles: a rule
names its profile by id, and the profiles are validated again whenever
rules are.
-/

namespace LibreRoute.Routing

open Lib
open Admin (Throwable)
open Bridge (NameLibrary cleanDomain isLabelChar isValidDomain)

structure ZapretProfile where
  id : String
  name : String
  split : String := "1,midsld"
  tlsRecord : Bool := true
  methodEol : Bool := true
  hostCase : Bool := false
  disorder : Bool := false
  blockQuic : Bool := true
  deriving DecidableEq

def isISOControl (c : Char) : Bool :=
  decide (c.toNat ≤ 0x1F) || (decide (0x7F ≤ c.toNat) && decide (c.toNat ≤ 0x9F))

namespace ZapretProfile

def splits : List String := ["1,midsld", "1", "midsld", ""]

/-- `ZapretProfile.DEFAULT`. -/
def standard : ZapretProfile where
  id := "standard"
  name := "Стандартный"

/-- The expression `[A-Za-z0-9-]{1,64}`. -/
def isId (id : String) : Bool :=
  id.toList.all isLabelChar && decide (1 ≤ id.toList.length) && decide (id.toList.length ≤ 64)

def validate (p : ZapretProfile) : Except Throwable Unit := do
  require (isId p.id) (.illegalArgument "Некорректный идентификатор профиля")
  require (! isBlank p.name && decide (length p.name ≤ 80) && p.name.toList.all (! isISOControl ·))
    (.illegalArgument "Введите название до 80 символов")
  require (splits.contains p.split) (.illegalArgument "Некорректный способ разделения")

end ZapretProfile

structure ZapretProfileState where
  profiles : List ZapretProfile := [ZapretProfile.standard]
  activeId : String := ZapretProfile.standard.id
  previous : Option ZapretProfile := none
  deriving DecidableEq

namespace ZapretProfileState

variable (s : ZapretProfileState)

/-- `profiles.any { it.id == id }`. -/
def has (id : String) : Bool := s.profiles.any (·.id == id)

def validate : Except Throwable Unit := do
  require (decide (1 ≤ s.profiles.length) && decide (s.profiles.length ≤ 32))
    (.illegalArgument "Можно сохранить не более 32 профилей")
  s.profiles.forM ZapretProfile.validate
  require ((s.profiles.map (·.id)).eraseDups.length == s.profiles.length)
    (.illegalArgument "Повторяющиеся профили")
  require (singleOrNull (s.profiles.filter (·.id == ZapretProfile.standard.id)) ==
      some ZapretProfile.standard)
    (.illegalArgument "Стандартный профиль должен быть сохранён")
  require (s.has s.activeId) (.illegalArgument "Активный профиль не найден")
  s.previous.forM ZapretProfile.validate
  require (s.previous.all fun p => s.has p.id) (.illegalArgument "Предыдущий профиль не найден")
  require (s.previous.all fun p =>
      p.id != ZapretProfile.standard.id || p == ZapretProfile.standard)
    (.illegalArgument "Failed requirement.")

end ZapretProfileState

/-! ### Rules -/

/-- `SiteRule.ACTIONS`. -/
def actions : List String := ["direct", "zapret", "tunnel"]

/-- A rule that uses the bypass names a profile, and no other rule does. -/
def validateAction (profiles : ZapretProfileState) (action profile : String) :
    Except Throwable Unit := do
  require (actions.contains action) (.illegalArgument "Некорректное действие правила")
  require (if action == "zapret" then profiles.has profile else profile.isEmpty)
    (.illegalArgument "Профиль zapret не найден")

/-- The rules are about different things, and each of them is valid. -/
def validateRules {α : Type} (subject : α → String) (message : String)
    (validate : α → Except Throwable Unit) (profiles : ZapretProfileState) (rules : List α) :
    Except Throwable Unit := do
  profiles.validate
  require (decide (rules.length ≤ 1000) && (rules.map subject).eraseDups.length == rules.length)
    (.illegalArgument message)
  rules.forM validate

structure SiteRule where
  domain : String
  action : String := "tunnel"
  profile : String := ""
  deriving DecidableEq

structure SiteRoutingState where
  enabled : Bool := false
  rules : List SiteRule := []
  defaultTunnel : Bool := true
  deriving DecidableEq

structure AppRule where
  packageName : String
  action : String
  profile : String := ""
  deriving DecidableEq

structure AppRoutingState where
  enabled : Bool := false
  rules : List AppRule := []
  directRuPackages : Bool := false
  deriving DecidableEq

section Sites

variable (N : NameLibrary)

def SiteRule.clean (raw : String) : String :=
  let domain := cleanDomain N raw
  ((N.toAscii domain false).map lowercase).getD domain

def SiteRule.validate (profiles : ZapretProfileState) (rule : SiteRule) :
    Except Throwable Unit := do
  require (rule.domain == SiteRule.clean N rule.domain && isValidDomain N rule.domain)
    (.illegalArgument "Введите домен сайта без пути и порта")
  validateAction profiles rule.action rule.profile

def SiteRoutingState.validate (s : SiteRoutingState) (profiles : ZapretProfileState) :
    Except Throwable Unit :=
  validateRules SiteRule.domain "Повторяющиеся правила или слишком много сайтов"
    (SiteRule.validate N profiles) profiles s.rules

end Sites

/-- The expression `[A-Za-z][A-Za-z0-9_]*(\.[A-Za-z][A-Za-z0-9_]*)+`. -/
def isPackageName (name : String) : Bool :=
  decide (2 ≤ (split name '.').length) && (split name '.').all fun part =>
    part.toList.head?.any Char.isAlpha && part.toList.all fun c => c.isAlphanum || c == '_'

def AppRule.validate (profiles : ZapretProfileState) (rule : AppRule) : Except Throwable Unit := do
  require (isPackageName rule.packageName && decide (length rule.packageName ≤ 255))
    (.illegalArgument "Некорректное приложение")
  validateAction profiles rule.action rule.profile

def AppRoutingState.validate (s : AppRoutingState) (profiles : ZapretProfileState) :
    Except Throwable Unit :=
  validateRules AppRule.packageName "Повторяющиеся правила или слишком много приложений"
    (AppRule.validate profiles) profiles s.rules

end LibreRoute.Routing
