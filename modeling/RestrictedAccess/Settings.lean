/-
The settings of an engine and the rules by which they are accepted. Settings that break a rule are
rejected with every broken rule; settings that are merely doubtful are accepted with warnings.
-/

import RestrictedAccess.Scheduler

namespace RestrictedAccess

structure GeneralSettings where
  name : String
  logLevel : String
  interfaceKind : InterfaceKind
  deriving DecidableEq

structure EngineSettings where
  enabledOnStart : Bool
  /-- Beacons in a DTIM period. -/
  dtimPeriod : UInt8
  announcedDtims : UInt16
  maxAssignments : UInt64
  /-- The window of the rate limit on warnings, in milliseconds. -/
  warnInterval : UInt64
  warnBurst : UInt32
  deriving DecidableEq

structure Settings where
  general : GeneralSettings
  engine : EngineSettings
  deriving DecidableEq

namespace GeneralSettings

def standard : GeneralSettings :=
  { name := "s1g-raw"
    logLevel := "info"
    interfaceKind := .accessPoint }

end GeneralSettings

namespace EngineSettings

def standard : EngineSettings :=
  { enabledOnStart := true
    dtimPeriod := 1
    announcedDtims := 10
    maxAssignments := 32
    warnInterval := 5000
    warnBurst := 10 }

def toOptions (settings : EngineSettings) : SchedulerOptions :=
  { enabled := settings.enabledOnStart
    dtimPeriod := settings.dtimPeriod
    announcedDtims := settings.announcedDtims
    maxAssignments := settings.maxAssignments.toNat
    noticeInterval := settings.warnInterval.toNat
    noticeBurst := settings.warnBurst }

end EngineSettings

namespace Settings

def standard : Settings :=
  ⟨.standard, .standard⟩

def logLevels : List String :=
  ["trace", "debug", "info", "warn", "error"]

/-- The number of assignments up to which an element of any kind is sure to fit. -/
def safeAssignments : Nat := 32

def errors (settings : Settings) : List SettingsError :=
  (if settings.general.name = "" then [.nameEmpty] else [])
    ++ (if settings.general.logLevel ∈ logLevels then []
        else [.logLevelUnknown settings.general.logLevel])
    ++ (if settings.general.interfaceKind = .accessPoint then []
        else [.interfaceNotAccessPoint settings.general.interfaceKind])
    ++ (if settings.engine.dtimPeriod = 0 then [.dtimPeriodZero] else [])
    ++ (if settings.engine.maxAssignments = 0 then [.maxAssignmentsZero] else [])

def warnings (settings : Settings) : List SettingsWarning :=
  (if safeAssignments < settings.engine.maxAssignments.toNat then
      [.assignmentsMayExceedElement settings.engine.maxAssignments.toNat]
    else [])
    ++ (if settings.engine.announcedDtims = 0 then [.retransmissionDisabled] else [])
    ++ (if settings.engine.warnBurst = 0 then [.warningsSuppressed] else [])

def isValid (settings : Settings) : Bool :=
  settings.errors.isEmpty

def check (settings : Settings) : Except Fault Unit :=
  if settings.isValid then .ok () else .error (.config (.rejected settings.errors))

end Settings

end RestrictedAccess
