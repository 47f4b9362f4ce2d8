/-
The settings that a manager holds. Calls work on the manager in place, so what a call assigned
before it fails would stay assigned. No call does so: each assigns once, as its last step, and only
settings that pass the rules. So whatever files, their readers and those who render settings
return, the settings held are ones that a scheduler can be created from.
-/

import RestrictedAccess.Dispatcher
import RestrictedAccess.Settings.Codec
import RestrictedAccess.Settings.Manager

namespace RestrictedAccess

open Document

/-! ### Accepted settings -/

namespace Settings

theorem check_eq (settings : Settings) :
    settings.check =
      if settings.errors = [] then .ok () else .error (.config (.rejected settings.errors)) := by
  unfold check isValid
  simp only [List.isEmpty_iff]

theorem errors_eq_nil_iff (settings : Settings) :
    settings.errors = [] ↔
      settings.general.name ≠ "" ∧ settings.general.logLevel ∈ logLevels ∧
        settings.general.interfaceKind = .accessPoint ∧ settings.engine.dtimPeriod ≠ 0 ∧
        settings.engine.maxAssignments ≠ 0 := by
  unfold errors
  simp only [List.append_eq_nil_iff, ite_eq_left_iff, ite_eq_right_iff, List.cons_ne_nil, imp_false,
    Decidable.not_not, and_assoc, ne_eq]

def approved (settings : Settings) : Except Fault Settings :=
  settings.check.map (fun _ => settings)

theorem approved_eq_ok_iff (settings result : Settings) :
    settings.approved = .ok result ↔ settings.errors = [] ∧ result = settings := by
  unfold approved
  rw [check_eq]
  split
  · rename_i accepted
    refine Iff.trans ?_ (and_iff_right accepted).symm
    exact ⟨fun same => (Except.ok.inj same).symm, fun same => congrArg Except.ok same.symm⟩
  · rename_i refused
    exact iff_of_false (fun same => by cases same) (fun both => refused both.1)

theorem errors_of_bind_approved {offer : Except Fault Settings} {settings : Settings}
    (passed : offer.bind approved = .ok settings) : settings.errors = [] := by
  cases offer with
  | error fault => cases passed
  | ok offered =>
      obtain ⟨accepted, rfl⟩ := (approved_eq_ok_iff offered settings).mp passed
      exact accepted

/-- The rules leave a scheduler no reason to be refused. -/
theorem create_of_accepted {settings : Settings} (accepted : settings.errors = []) :
    ∃ scheduler, Scheduler.create settings.general.interfaceKind settings.engine.toOptions =
      .ok scheduler := by
  obtain ⟨_, _, kind, _, room⟩ := settings.errors_eq_nil_iff.mp accepted
  have roomy : settings.engine.toOptions.maxAssignments ≠ 0 :=
    fun none => room (UInt64.toNat_inj.mp none)
  unfold Scheduler.create
  rw [if_neg (fun other => other kind), if_neg roomy]
  exact ⟨_, rfl⟩

theorem build_of_accepted {settings : Settings} (accepted : settings.errors = [])
    (observers : List Observer) :
    ∃ dispatcher, Dispatcher.build settings observers = .ok dispatcher := by
  obtain ⟨scheduler, created⟩ := create_of_accepted accepted
  unfold Dispatcher.build
  rw [created]
  exact ⟨_, rfl⟩

end Settings

/-! ### Calls -/

abbrev SettingsRenderer := Settings → Format → Except Fault String

abbrev SettingsWriter := String → String → Except FileProblem Unit

/-- Write settings to a file. The format is looked at before the settings are rendered, and they are
rendered before the file is written. -/
def Settings.storeBy (renderer : SettingsRenderer) (write : SettingsWriter) (settings : Settings)
    (path : String) : Except Fault Unit :=
  match Format.ofPath? path with
  | none => .error (.config (.formatUnknown path))
  | some format =>
      match renderer settings format with
      | .error fault => .error fault
      | .ok text => (write path text).mapError (fun problem => .config (.unwritable problem))

def Document.Directory.writer (directory : Directory) : SettingsWriter :=
  fun path text => (directory.write path text.toUTF8).map (fun _ => ())

theorem Settings.storeBy_writer (settings : Settings) (directory : Directory) (path : String) :
    settings.storeBy Settings.render directory.writer path =
      (settings.store directory path).map (fun _ => ()) := by
  unfold store storeBy Directory.writer
  cases Format.ofPath? path with
  | none => rfl
  | some format =>
      cases rendered : settings.render format with
      | error fault =>
          simp only [rendered]
          rfl
      | ok text =>
          simp only [rendered, bind, Except.bind]
          cases directory.write path text.toUTF8 <;> rfl

namespace SettingsManager

/-- Steps that change a manager in place. A failure ends them and leaves what was assigned. -/
abbrev InPlace := ExceptT Fault (StateM SettingsManager)

namespace InPlace

variable {α β : Type} (manager : SettingsManager)

def runOn (steps : InPlace α) (manager : SettingsManager) : Except Fault α × SettingsManager :=
  steps.run.run manager

def attempt (outcome : Except Fault α) : InPlace α :=
  ExceptT.mk (pure outcome)

theorem runOn_attempt (outcome : Except Fault α) :
    (attempt outcome).runOn manager = (outcome, manager) :=
  rfl

theorem runOn_bind (steps : InPlace α) (next : α → InPlace β) :
    runOn (steps >>= next) manager =
      match steps.runOn manager with
      | (.ok value, later) => (next value).runOn later
      | (.error fault, later) => (.error fault, later) := by
  unfold runOn
  change (match steps.run.run manager with
    | (outcome, later) => (ExceptT.bindCont next outcome).run later) = _
  rcases steps.run.run manager with ⟨outcome, later⟩
  cases outcome <;> rfl

end InPlace

inductive Call
  | update (settings : Settings)
  /-- The files may be others at every call, so each has a source of its own. -/
  | reload (source : SettingsSource)
  | save (renderer : SettingsRenderer) (write : SettingsWriter) (path : String)
  | render (renderer : SettingsRenderer) (format : Format)

open InPlace

def updateInPlace (settings : Settings) : InPlace Unit := do
  attempt settings.check
  modify (fun manager => { manager with settings })

def reloadInPlace (source : SettingsSource) : InPlace Unit := do
  let path ← attempt ((← get).path.elim (.error (.config .noPath)) .ok)
  let loaded ← attempt (load source path)
  updateInPlace loaded.settings

def saveInPlace (renderer : SettingsRenderer) (write : SettingsWriter) (path : String) :
    InPlace Unit := do
  attempt ((← get).settings.storeBy renderer write path)

def renderInPlace (renderer : SettingsRenderer) (format : Format) : InPlace Unit := do
  attempt ((renderer (← get).settings format).map (fun _ => ()))

def Call.steps : Call → InPlace Unit
  | .update settings => updateInPlace settings
  | .reload source => reloadInPlace source
  | .save renderer write path => saveInPlace renderer write path
  | .render renderer format => renderInPlace renderer format

def answer (manager : SettingsManager) (call : Call) : Except Fault Unit :=
  (call.steps.runOn manager).1

def after (manager : SettingsManager) (call : Call) : SettingsManager :=
  (call.steps.runOn manager).2

def afterAll (manager : SettingsManager) (calls : List Call) : SettingsManager :=
  calls.foldl after manager

def committed (manager : SettingsManager) :
    Except Fault SettingsManager → Except Fault Unit × SettingsManager
  | .ok next => (.ok (), next)
  | .error fault => (.error fault, manager)

variable (manager : SettingsManager)

theorem runOn_updateInPlace (settings : Settings) :
    (updateInPlace settings).runOn manager = manager.committed (manager.update settings) := by
  unfold updateInPlace update
  rw [runOn_bind, runOn_attempt]
  cases settings.check <;> rfl

theorem runOn_reloadInPlace (source : SettingsSource) :
    (reloadInPlace source).runOn manager = manager.committed (manager.reload source) := by
  have steps : (reloadInPlace source).runOn manager =
      runOn (do
        let path ← attempt (manager.path.elim (.error (.config .noPath)) .ok)
        let loaded ← attempt (load source path)
        updateInPlace loaded.settings) manager := rfl
  rw [steps, runOn_bind, runOn_attempt]
  unfold reload
  cases manager.path with
  | none => rfl
  | some path =>
      simp only [Option.elim_some]
      rw [runOn_bind, runOn_attempt]
      cases load source path with
      | error fault => rfl
      | ok loaded => exact manager.runOn_updateInPlace loaded.settings

theorem runOn_saveInPlace (renderer : SettingsRenderer) (write : SettingsWriter) (path : String) :
    (saveInPlace renderer write path).runOn manager =
      (manager.settings.storeBy renderer write path, manager) :=
  rfl

theorem runOn_renderInPlace (renderer : SettingsRenderer) (format : Format) :
    (renderInPlace renderer format).runOn manager =
      ((renderer manager.settings format).map (fun _ => ()), manager) :=
  rfl

/-! ### Single calls -/

def Call.offers? (manager : SettingsManager) : Call → Option (Except Fault Settings)
  | .update settings => some (.ok settings)
  | .reload source => some (manager.path.elim (.error (.config .noPath)) source)
  | .save _ _ _ => none
  | .render _ _ => none

theorem update_eq (settings : Settings) :
    manager.update settings =
      settings.approved.map (fun settings => { manager with settings }) := by
  unfold update Settings.approved
  cases settings.check <;> rfl

theorem load_eq (source : SettingsSource) (path : String) :
    load source path =
      ((source path).bind Settings.approved).map (fun settings => ⟨settings, some path⟩) := by
  unfold load Settings.approved
  cases source path with
  | error fault => rfl
  | ok settings =>
      change (settings.check.bind fun _ => .ok _) = (settings.check.map _).map _
      cases settings.check <;> rfl

/-- Settings that are accepted when they are loaded are accepted again when they are taken over. -/
theorem reload_eq (source : SettingsSource) :
    manager.reload source =
      ((manager.path.elim (.error (.config .noPath)) source).bind Settings.approved).map
        (fun settings => { manager with settings }) := by
  unfold reload
  cases located : manager.path with
  | none => rfl
  | some path =>
      simp only [Option.elim_some, load_eq]
      cases passed : (source path).bind Settings.approved with
      | error fault => rfl
      | ok settings =>
          have again : settings.approved = .ok settings :=
            (Settings.approved_eq_ok_iff settings settings).mpr
              ⟨Settings.errors_of_bind_approved passed, rfl⟩
          change manager.update settings = _
          rw [update_eq, again, located]

/-- A call that offers settings takes them over if they pass the rules, and is undone otherwise. -/
theorem runOn_of_offers {call : Call} {offer : Except Fault Settings}
    (offered : call.offers? manager = some offer) :
    call.steps.runOn manager = manager.committed
      ((offer.bind Settings.approved).map (fun settings => { manager with settings })) := by
  cases call with
  | update settings =>
      cases offered
      exact (manager.runOn_updateInPlace settings).trans (congrArg _ (manager.update_eq settings))
  | reload source =>
      cases offered
      exact (manager.runOn_reloadInPlace source).trans (congrArg _ (manager.reload_eq source))
  | save renderer write path => cases offered
  | render renderer format => cases offered

theorem after_of_no_offer {call : Call} (silent : call.offers? manager = none) :
    manager.after call = manager := by
  cases call with
  | update settings => cases silent
  | reload source => cases silent
  | save renderer write path =>
      exact congrArg Prod.snd (manager.runOn_saveInPlace renderer write path)
  | render renderer format =>
      exact congrArg Prod.snd (manager.runOn_renderInPlace renderer format)

theorem after_of_failed {call : Call} {fault : Fault}
    (failed : manager.answer call = .error fault) : manager.after call = manager := by
  cases offered : call.offers? manager with
  | none => exact manager.after_of_no_offer offered
  | some offer =>
      unfold answer at failed
      unfold after
      rw [manager.runOn_of_offers offered] at failed ⊢
      cases taken : offer.bind Settings.approved with
      | error fault => rfl
      | ok settings =>
          rw [taken] at failed
          cases failed

theorem answer_of_offers {call : Call} {offer : Except Fault Settings}
    (offered : call.offers? manager = some offer) :
    manager.answer call = (offer.bind Settings.approved).map (fun _ => ()) := by
  unfold answer
  rw [manager.runOn_of_offers offered]
  cases offer.bind Settings.approved <;> rfl

theorem after_of_approved {call : Call} {offer : Except Fault Settings} {settings : Settings}
    (offered : call.offers? manager = some offer)
    (passed : offer.bind Settings.approved = .ok settings) :
    manager.after call = { manager with settings } := by
  unfold after
  rw [manager.runOn_of_offers offered, passed]
  rfl

/-! ### Lifetimes -/

theorem after_sound (accepted : manager.settings.errors = []) (call : Call) :
    (manager.after call).settings.errors = [] ∧ (manager.after call).path = manager.path := by
  cases offered : call.offers? manager with
  | none =>
      rw [manager.after_of_no_offer offered]
      exact ⟨accepted, rfl⟩
  | some offer =>
      cases taken : offer.bind Settings.approved with
      | error fault =>
          have failed : manager.answer call = .error fault := by
            rw [manager.answer_of_offers offered, taken]
            rfl
          rw [manager.after_of_failed failed]
          exact ⟨accepted, rfl⟩
      | ok settings =>
          rw [manager.after_of_approved offered taken]
          exact ⟨Settings.errors_of_bind_approved taken, rfl⟩

theorem afterAll_sound (accepted : manager.settings.errors = []) (calls : List Call) :
    (manager.afterAll calls).settings.errors = [] ∧
      (manager.afterAll calls).path = manager.path := by
  induction calls generalizing manager with
  | nil => exact ⟨accepted, rfl⟩
  | cons call rest hypothesis =>
      obtain ⟨kept, path⟩ := manager.after_sound accepted call
      obtain ⟨last, same⟩ := hypothesis (manager.after call) kept
      exact ⟨last, same.trans path⟩

inductive Started : SettingsManager → Prop
  | new : Started .new
  | loaded {manager : SettingsManager} {source : SettingsSource} {path : String}
      (accepted : load source path = .ok manager) : Started manager

theorem Started.accepted {manager : SettingsManager} (started : manager.Started) :
    manager.settings.errors = [] := by
  cases started with
  | new => rfl
  | @loaded _ source path loaded =>
      rw [load_eq] at loaded
      cases passed : (source path).bind Settings.approved with
      | error fault =>
          rw [passed] at loaded
          cases loaded
      | ok settings =>
          rw [passed] at loaded
          cases loaded
          exact Settings.errors_of_bind_approved passed

structure Dependable (first manager : SettingsManager) : Prop where
  accepted : manager.settings.errors = []
  path : manager.path = first.path
  created : ∃ scheduler, Scheduler.create manager.settings.general.interfaceKind
    manager.settings.engine.toOptions = .ok scheduler
  built : ∀ observers, ∃ dispatcher, Dispatcher.build manager.settings observers = .ok dispatcher
  failed : ∀ call fault, manager.answer call = .error fault → manager.after call = manager
  /-- A call that offers no settings changes nothing, even when it succeeds. -/
  silent : ∀ call : Call, call.offers? manager = none → manager.after call = manager
  answered : ∀ (call : Call) offer, call.offers? manager = some offer →
    manager.answer call = (offer.bind Settings.approved).map (fun _ => ())
  changed : ∀ (call : Call) offer settings, call.offers? manager = some offer →
    offer.bind Settings.approved = .ok settings →
      manager.after call = { manager with settings }
  saved : ∀ directory path, manager.answer (.save Settings.render directory.writer path) =
    (manager.settings.store directory path).map (fun _ => ())

/-- However the files change between the calls, and however settings are rendered, a manager holds
settings that a scheduler can be created from. It keeps its path, and no call that fails has changed
anything. -/
theorem held_settings_accepted {manager : SettingsManager} (started : manager.Started)
    (calls : List Call) : Dependable manager (manager.afterAll calls) := by
  obtain ⟨accepted, path⟩ := manager.afterAll_sound started.accepted calls
  exact
    { accepted
      path
      created := Settings.create_of_accepted accepted
      built := Settings.build_of_accepted accepted
      failed := fun _ _ => after_of_failed _
      silent := fun _ => after_of_no_offer _
      answered := fun _ _ => answer_of_offers _
      changed := fun _ _ _ => after_of_approved _
      saved := fun directory path => Settings.storeBy_writer _ directory path }

theorem held_settings_accepted_amid_failures :
    let broken : Settings :=
      { Settings.standard with engine := { EngineSettings.standard with dtimPeriod := 0 } }
    let strict : Settings :=
      { Settings.standard with engine := { EngineSettings.standard with dtimPeriod := 3 } }
    let first : SettingsManager := ⟨strict, some "engine.toml"⟩
    let calls : List Call :=
      [.update broken, .reload (fun _ => .error (.config (.unreadable .missing))),
        .update .standard, .reload (fun _ => .ok broken), .render Settings.render .json,
        .render (fun _ _ => .error (.config .unwritableAsToml)) .toml]
    load (fun _ => .ok strict) "engine.toml" = .ok first ∧
      first.answer (.update broken) = .error (.config (.rejected [.dtimPeriodZero])) ∧
      first.afterAll calls = ⟨.standard, some "engine.toml"⟩ ∧
      Dependable first (first.afterAll calls) := by
  intro broken strict first calls
  have loaded : load (fun _ => .ok strict) "engine.toml" = .ok first := rfl
  exact ⟨loaded, rfl, rfl, held_settings_accepted (.loaded loaded) calls⟩

end SettingsManager

end RestrictedAccess
