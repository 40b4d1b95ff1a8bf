import Mathlib
import Modeset.Proofs.Lifecycle
import Modeset.Proofs.Live
import Modeset.Proofs.Terminal

/-!
# What a command leaves behind

A command opens the node, works with the device until it is done or something fails, and closes the
node. As long as the node is open, what is alive in the kernel besides what was there before is just
what the manager holds. This is so at the opening, every step of the work keeps it, whether it fails
or not, and with the end of the session it means that nothing is left.

## Main definitions

* `Manager.Accounted` — just what the manager holds is alive besides what was there before
* `Cli.Session.Tidy` — work that keeps to that
* `Cli.Tidy` — what leaves nothing behind

## Main results

* `Cli.Session.tidy_query`, `Cli.Session.tidy_operate`, `Cli.Session.Tidy.bind` — the steps of work
  are tidy
* `Cli.tidy_withSession` — tidy work with the device leaves nothing behind
* `Cli.leaves_nothing` — no command leaves anything behind
-/

namespace Modeset

open Proc

variable {α β : Type} {base : Live} {s t : Card × Live} {bpp : UInt32}

/-- Once the ledger is empty, closing the node leaves what was alive before. -/
theorem Live.Booked.closed {card : Card} {live : Live} (booked : base.Booked 0 (card, live)) :
    { live with files := live.files.tail } = base := by
  obtain ⟨framebuffers, dumbs, -, descriptor, files⟩ := booked
  obtain ⟨live_framebuffers, live_dumbs, live_files⟩ := live
  obtain rfl : live_framebuffers = base.framebuffers :=
    Finset.val_injective (framebuffers.trans (add_zero _))
  obtain rfl : live_dumbs = base.dumbs := Finset.val_injective (dumbs.trans (add_zero _))
  obtain rfl : live_files = descriptor :: base.files := files
  rfl

namespace Manager

/-- The node is open, and just what the manager holds is alive besides what was there before. -/
structure Accounted (manager : Manager) (base : Live) (s : Card × Live) : Prop where
  sound : manager.Sound manager.config
  isOpen : manager.isOpen = true
  booked : base.Booked manager.holdings s

variable {manager after : Manager} {config : Config} {events : List (Event Platform)}

/-- An operation that leaves the node open changes what is alive as it changes the manager. -/
theorem Accounted.effect (accounted : manager.Accounted base s)
    (effect : manager.Effect events after) (still : after.isOpen = manager.isOpen)
    (path : Follows (Platform.Step bpp) s events t) : after.Accounted base t := by
  have isOpen : after.isOpen = true := still.trans accounted.isOpen
  have works := works_of_effect effect accounted.isOpen isOpen
  have entries := follows_of_effect accounted.sound effect
  have sound := accounted.sound.effect effect
  exact ⟨by rwa [sound.config_eq], isOpen, accounted.booked.follows works entries path⟩

/-- Opening the node leaves a manager that holds nothing, or changes nothing. -/
theorem accounted_of_run_start {result : Except Error Unit}
    (run : (new config).start.Run events (result, after))
    (path : Follows (Platform.Step bpp) s events t) :
    (result.isOk = false ∧ t = s) ∨ (result.isOk = true ∧ after.Accounted s.2 t) := by
  unfold start at run
  simp only [new, Bool.false_eq_true, if_false, Platform.run_openNode_bind_iff] at run
  obtain ⟨answer, rest, rfl, run⟩ := run
  obtain ⟨card, live⟩ := s
  obtain ⟨middle, opening, path⟩ := path
  rcases opening.onCard.of_openNode with ⟨failed, rfl⟩ | ⟨descriptor, rfl, rfl⟩
  · cases answer with
    | ok => cases failed
    | error fault =>
      obtain ⟨rfl, rfl, rfl⟩ : rest = [] ∧ result = _ ∧ after = _ := by simpa using run
      exact .inl ⟨rfl, path⟩
  · obtain ⟨rfl, rfl, rfl⟩ :
        rest = [] ∧ result = .ok () ∧ after = { new config with isOpen := true } := by
      simpa [new] using run
    obtain rfl := path
    have effect : (new config).Effect _ { new config with isOpen := true } := .opened rfl
    refine .inr ⟨rfl, Sound.new.effect effect, rfl, ?_⟩
    exact ⟨(add_zero _).symm, (add_zero _).symm, fun _ none => absurd none (Multiset.notMem_zero _),
      descriptor, rfl⟩

/-- Closing the node leaves what was alive before. -/
theorem Accounted.stop (accounted : manager.Accounted base s) (run : manager.stop.Run events after)
    (path : Follows (Platform.Step bpp) s events t) : t.2 = base := by
  obtain ⟨closed, -⟩ := closed_of_run_stop run
  cases closed with
  | shut shut => exact absurd accounted.isOpen (by simp [shut])
  | opened isOpen retired =>
    obtain ⟨⟨card, live⟩, giving, last, closing, rfl⟩ := Follows.append_iff.mp path
    have entries := follows_of_outputs_retired accounted.sound retired
    have given := accounted.booked.follows retired.works entries giving
    obtain rfl := closing.onCard.of_closeNode
    exact given.closed

end Manager

namespace Cli

variable {manager : Manager} {events : List (Event Terminal)}

/-- What is done with a manager at the terminal is a run of the operation, and leads where this
leads. -/
theorem exists_carried_of_onPlatform {operation : Manager → Proc Platform α} {a : α}
    (run : (onPlatform manager operation : Proc Terminal α).Run events a)
    (path : Follows Card.Step s (Event.lefts events) t) :
    ∃ others, (operation manager).Run others a ∧
      Follows (Platform.Step manager.config.framebufferBpp) s others t := by
  obtain ⟨own, own_run, rfl⟩ := run_left_iff.mp run
  rw [Event.lefts_map_onLeft] at path
  exact exists_carried_of_interpret own_run path

/-! ## Work with an open device -/

namespace Session

/-- Work with an open device, however it is answered and whether or not it fails, leaves alive just
what the manager holds then. -/
def Tidy (session : Session α) : Prop :=
  ∀ ⦃base : Live⦄ ⦃s t : Card × Live⦄ ⦃manager after : Manager⦄ ⦃events : List (Event Terminal)⦄
    ⦃outcome : Except Failure α⦄, session.Ran manager events outcome after →
    manager.Accounted base s → Follows Card.Step s (Event.lefts events) t → after.Accounted base t

section Tidy

variable {session : Session α}

theorem tidy_pure (a : α) : Tidy (pure a) := by
  intro _ _ _ _ _ _ _ ran accounted path
  obtain ⟨rfl, -, rfl⟩ := ran_pure_iff.mp ran
  obtain rfl := path
  exact accounted

theorem tidy_throw (failure : Failure) : Tidy (throw failure : Session α) := by
  intro _ _ _ _ _ _ _ ran accounted path
  obtain ⟨rfl, -, rfl⟩ := ran_throw_iff.mp ran
  obtain rfl := path
  exact accounted

theorem Tidy.bind {next : α → Session β} (first : Tidy session) (rest : ∀ a, Tidy (next a)) :
    Tidy (session >>= next) := by
  intro _ _ _ _ _ _ _ ran accounted path
  rcases ran_bind_iff.mp ran with ⟨failure, failed, -⟩ | ⟨a, middle, one, two, done, later, rfl⟩
  · exact first failed accounted path
  · rw [Event.lefts_append] at path
    obtain ⟨between, one_path, two_path⟩ := Follows.append_iff.mp path
    exact rest a later (first done accounted one_path) two_path

theorem tidy_inContext (context : String) (tidy : Tidy session) :
    Tidy (inContext context session) := by
  intro _ _ _ _ _ _ _ ran accounted path
  obtain ⟨inner, own, -⟩ := ran_inContext_iff.mp ran
  exact tidy own accounted path

theorem tidy_mapM {f : α → Session β} (each : ∀ a, Tidy (f a)) (list : List α) :
    Tidy (list.mapM f) := by
  induction list with
  | nil => exact tidy_pure []
  | cons a rest ih =>
    rw [List.mapM_cons]
    exact (each a).bind fun b => ih.bind fun others => tidy_pure (b :: others)

/-- What is asked of the host does not concern the device. -/
theorem tidy_onHost (p : Proc Host α) : Tidy (onHost p) := by
  intro _ _ _ _ _ _ _ ran accounted path
  obtain ⟨a, run, -, rfl⟩ := ran_lift_iff.mp ran
  obtain ⟨own, -, rfl⟩ := run_right_iff.mp run
  rw [Event.lefts_map_onRight] at path
  obtain rfl := path
  exact accounted

theorem tidy_note (level : Level) (topic : Topic) (text : String) :
    Tidy (note level topic text) := by
  intro _ _ _ _ _ _ _ ran accounted path
  obtain ⟨⟨⟩, run, -, rfl⟩ := ran_lift_iff.mp ran
  obtain rfl := run_log_iff.mp run
  obtain rfl := path
  exact accounted

theorem tidy_ofOutcome (outcome : Except Error α) : Tidy (ofOutcome outcome) := by
  cases outcome with
  | ok a => exact tidy_pure a
  | error error => exact tidy_throw _

/-- What leaves the outputs as they are may be looked up. -/
theorem tidy_query {operation : Manager → Proc Platform α}
    (steady : ∀ {manager events a}, (operation manager).Run events a → manager.Steady events) :
    Tidy (query operation) := by
  intro _ _ _ manager _ _ _ ran accounted path
  obtain ⟨a, run, -, rfl⟩ : ∃ a, (onPlatform manager operation : Proc Terminal α).Run _ a ∧ _ :=
    ran_lift_iff.mp ran
  obtain ⟨others, own, path⟩ := exists_carried_of_onPlatform run path
  exact accounted.effect (.steady (steady own)) rfl path

/-- What is known of a slot may be looked up. -/
theorem tidy_lookup (device : UInt32) (answer : Option Output → α) :
    Tidy (query fun manager => do return answer (← manager.output? device)) := by
  refine tidy_query fun run => ?_
  obtain ⟨rfl, -⟩ := Manager.run_output?_iff.mp run
  exact .nil

theorem tidy_attempt {operation : Manager → Proc Platform (Except Error α)}
    (steady : ∀ {manager events a}, (operation manager).Run events a → manager.Steady events) :
    Tidy (attempt operation) :=
  (tidy_query steady).bind tidy_ofOutcome

/-- What has an effect on the manager and leaves the node open may be done. -/
theorem tidy_operate {operation : Manager → Proc Platform (Except Error α × Manager)}
    (effect : ∀ {manager events result after}, (operation manager).Run events (result, after) →
      manager.Effect events after ∧ after.isOpen = manager.isOpen) : Tidy (operate operation) := by
  intro _ _ _ _ _ _ _ ran accounted path
  obtain ⟨result, run, -⟩ := ran_operate_iff.mp ran
  obtain ⟨others, own, path⟩ := exists_carried_of_onPlatform run path
  obtain ⟨effect, still⟩ := effect own
  exact accounted.effect effect still path

end Tidy

/-! ### The steps of the commands -/

theorem tidy_detection (device : UInt32) : Tidy (operate (·.detect device)) := by
  refine tidy_operate fun run => ⟨Manager.effect_of_run_detect run, ?_⟩
  rcases Manager.refused_or_detected_of_run run with ⟨-, -, rfl⟩ | ⟨-, slot, -, detected⟩
  · rfl
  · exact detected.isOpen_eq

theorem tidy_change (device : UInt32) (exact : Mode → Mode → Bool) :
    Tidy (operate (·.changeMode device exact)) := by
  refine tidy_operate fun run => ⟨(Manager.changed_of_run run).effect, ?_⟩
  cases Manager.changed_of_run run <;> rfl

theorem tidy_print (text : String) : Tidy (print text) := tidy_onHost _

theorem tidy_hold (seconds : UInt64) : Tidy (hold seconds) := by
  unfold hold
  split
  · exact (tidy_print _).bind fun _ => tidy_onHost _
  · exact tidy_pure ()

theorem tidy_requireDisplay (slot : Slot) : Tidy (requireDisplay slot) := by
  refine (tidy_detection _).bind fun outcome => ?_
  split
  · exact tidy_throw _
  · exact tidy_pure ()

theorem tidy_reportMode : Tidy reportMode := by
  refine (tidy_lookup _ _).bind fun mode => ?_
  cases mode with
  | none => exact tidy_print _
  | some mode => exact tidy_print _

theorem tidy_topology : Tidy topology :=
  (tidy_inContext _ (tidy_attempt Manager.steady_of_run_topology)).bind fun _ => tidy_print _

theorem tidy_find (slot : Slot) : Tidy (find slot) :=
  (tidy_detection _).bind fun _ => (tidy_lookup _ _).bind fun _ => tidy_pure _

theorem tidy_detect (slot : Option Slot) (json : Bool) (seconds : UInt64) :
    Tidy (detect slot json seconds) := by
  refine (tidy_mapM tidy_find _).bind fun found => ?_
  refine (tidy_mapM (fun _ => (tidy_lookup _ _).bind fun _ => tidy_pure _) found).bind fun _ => ?_
  exact (tidy_print _).bind fun _ => tidy_hold seconds

theorem tidy_modes (slot : Slot) : Tidy (modes slot) :=
  (tidy_requireDisplay slot).bind fun _ => (tidy_lookup _ _).bind fun _ =>
    (tidy_lookup _ _).bind fun _ => tidy_print _

theorem tidy_setMode (request : ModeRequest) (seconds : UInt64) :
    Tidy (setMode request seconds) := by
  refine (tidy_requireDisplay _).bind fun _ => (tidy_lookup _ _).bind fun modes => ?_
  dsimp only
  cases candidate? request (modes.getD []) with
  | none => exact tidy_throw _
  | some mode =>
    refine (tidy_note _ _ _).bind fun _ => (tidy_inContext _ (tidy_change _ _)).bind fun _ => ?_
    exact tidy_reportMode.bind fun _ => tidy_hold seconds

theorem tidy_refresh (hz : UInt32) (seconds : UInt64) : Tidy (refresh hz seconds) := by
  refine (tidy_requireDisplay _).bind fun _ => (tidy_inContext _ (tidy_change _ _)).bind fun _ => ?_
  refine (tidy_lookup _ _).bind fun active => ?_
  have ending : Tidy (reportMode >>= fun _ => hold seconds) :=
    tidy_reportMode.bind fun _ => tidy_hold seconds
  split
  · exact (tidy_print _).bind fun _ => ending
  · exact ending

theorem tidy_power (power : Power) (slot : Slot) (seconds : UInt64) :
    Tidy (Session.power power slot seconds) :=
  (tidy_requireDisplay slot).bind fun _ =>
    (tidy_attempt Manager.steady_of_run_setPower).bind fun _ =>
      (tidy_print _).bind fun _ => tidy_hold seconds

end Session

/-! ## Commands -/

/-- Whatever is asked, and however it is answered, in the end alive is what was alive before. -/
def Tidy (p : Proc Terminal α) : Prop :=
  ∀ ⦃s t : Card × Live⦄ ⦃events : List (Event Terminal)⦄ ⦃a : α⦄, p.Run events a →
    Follows Card.Step s (Event.lefts events) t → t.2 = s.2

section Tidy

theorem tidy_done (a : α) : Tidy (.done a) := by
  intro _ _ _ _ run path
  obtain ⟨rfl, -⟩ := run_done_iff.mp run
  exact congrArg Prod.snd path

theorem Tidy.bind {p : Proc Terminal α} {next : α → Proc Terminal β} (first : Tidy p)
    (rest : ∀ a, Tidy (next a)) : Tidy (p >>= next) := by
  intro _ _ _ _ run path
  obtain ⟨one, a, two, done, later, rfl⟩ := run_bind_iff.mp run
  rw [Event.lefts_append] at path
  obtain ⟨between, one_path, two_path⟩ := Follows.append_iff.mp path
  exact (rest a later two_path).trans (first done one_path)

/-- Work leaves nothing behind if its steps do not, whether it fails or not. -/
theorem Tidy.workBind {work : Work α} {next : α → Work β} (first : Tidy work.run)
    (rest : ∀ a, Tidy (next a).run) : Tidy (work >>= next).run := by
  rw [ExceptT.run_bind]
  refine first.bind fun reached => ?_
  cases reached with
  | error failure => exact tidy_done _
  | ok a => exact rest a

theorem tidy_onHost (p : Proc Host α) : Tidy (onHost p : Proc Terminal α) := by
  intro _ _ _ _ run path
  obtain ⟨own, -, rfl⟩ := run_right_iff.mp run
  rw [Event.lefts_map_onRight] at path
  exact congrArg Prod.snd path

theorem tidy_log (level : Level) (topic : Topic) (text : String) :
    Tidy (log level topic text : Proc Terminal Unit) := by
  intro _ _ _ _ run path
  obtain rfl := run_log_iff.mp run
  exact congrArg Prod.snd path

theorem tidy_lift {p : Proc Terminal α} (tidy : Tidy p) : Tidy (liftM p : Work α).run := by
  intro _ _ _ _ run path
  obtain ⟨a, own, -⟩ := worked_lift_iff.mp run
  exact tidy own path

theorem tidy_workOnHost (p : Proc Host α) : Tidy (onHost p : Work α).run :=
  tidy_lift (tidy_onHost p)

end Tidy

/-! ### The commands -/

/-- When the device has been opened, just what was alive before is, and else nothing has changed. -/
theorem accounted_of_run_opening {path : Option Path} {outcome : Except Failure Manager}
    (run : (opening path).run.Run events outcome)
    (follows : Follows Card.Step s (Event.lefts events) t) :
    (∃ failure, outcome = .error failure ∧ t = s) ∨
      ∃ manager, outcome = .ok manager ∧ manager.Accounted s.2 t := by
  cases opened_of_run run with
  | unloaded load =>
    rw [Event.lefts_map_onRight] at follows
    exact .inl ⟨_, rfl, follows⟩
  | @started own config load rest result manager start =>
    rw [Event.lefts_append, Event.lefts_map_onRight, List.nil_append] at follows
    obtain ⟨others, own, path⟩ := exists_carried_of_onPlatform start follows
    rcases Manager.accounted_of_run_start own path with ⟨failed, rfl⟩ | ⟨done, accounted⟩
    · cases result with
      | ok => cases failed
      | error error => exact .inl ⟨_, rfl, rfl⟩
    · cases result with
      | ok => exact .inr ⟨manager, rfl, accounted⟩
      | error => cases done

/-- Tidy work with the device leaves nothing behind, whether or not the device can be opened and
however the work ends. -/
theorem tidy_withSession (path : Option Path) {session : Session Unit} (tidy : session.Tidy) :
    Tidy (withSession path session).run := by
  intro s t events outcome run follows
  cases conducted_of_run run with
  | unopened failed =>
    rcases accounted_of_run_opening failed follows with ⟨_, -, rfl⟩ | ⟨_, opened, -⟩
    · rfl
    · cases opened
  | held start ran stop =>
    rw [Event.lefts_append, Event.lefts_append] at follows
    obtain ⟨_, opening, follows⟩ := Follows.append_iff.mp follows
    obtain ⟨_, working, closing⟩ := Follows.append_iff.mp follows
    rcases accounted_of_run_opening start opening with ⟨_, failed, -⟩ | ⟨_, opened, accounted⟩
    · cases failed
    obtain rfl := Except.ok.inj opened
    obtain ⟨others, own, closes⟩ := exists_carried_of_onPlatform stop closing
    exact (tidy ran accounted working).stop own closes

theorem tidy_loadConfig (path : Option Path) : Tidy (loadConfig path).run := by
  refine (tidy_workOnHost _).workBind fun outcome => ?_
  cases outcome with
  | error error => exact tidy_done _
  | ok config => exact (tidy_lift (tidy_log _ _ _)).workBind fun _ => tidy_done _

theorem tidy_hostWork (context : String) (p : Proc Host (Except Fault α)) :
    Tidy (hostWork context p).run := by
  refine (tidy_workOnHost p).workBind fun result => ?_
  cases result with
  | error fault => exact tidy_done _
  | ok a => exact tidy_done _

/-- What is done with the configuration file does not concern the device. -/
theorem tidy_config (path : Option Path) (action : ConfigAction) :
    Tidy (config path action).run := by
  refine (tidy_workOnHost _).workBind fun path => ?_
  cases action with
  | path =>
    refine (tidy_workOnHost _).workBind fun _ => (tidy_workOnHost _).workBind fun found => ?_
    split
    · exact tidy_workOnHost _
    · exact tidy_workOnHost _
  | «show» =>
    refine (tidy_workOnHost _).workBind fun found => ?_
    have settings : Tidy (loadConfig (some path) >>= fun config =>
        (print (settingsReport config) : Work Unit)).run :=
      (tidy_loadConfig _).workBind fun _ => tidy_workOnHost _
    split
    · exact (tidy_workOnHost _).workBind fun _ => settings
    · exact (tidy_workOnHost _).workBind fun _ => settings
  | init force =>
    refine (tidy_workOnHost _).workBind fun found => ?_
    split
    · exact tidy_workOnHost _
    · exact (tidy_hostWork _ _).workBind fun _ => (tidy_hostWork _ _).workBind fun _ =>
        tidy_workOnHost _
  | sample => exact tidy_workOnHost _

theorem tidy_work (path : Option Path) (command : Command) : Tidy (work path command).run := by
  cases command with
  | topology => exact tidy_withSession path Session.tidy_topology
  | detect slot json seconds => exact tidy_withSession path (Session.tidy_detect slot json seconds)
  | modes slot => exact tidy_withSession path (Session.tidy_modes slot)
  | setMode request seconds => exact tidy_withSession path (Session.tidy_setMode request seconds)
  | refresh hz seconds => exact tidy_withSession path (Session.tidy_refresh hz seconds)
  | power power slot seconds => exact tidy_withSession path (Session.tidy_power power slot seconds)
  | config action => exact tidy_config path action

theorem tidy_run (invocation : Invocation) : Tidy (run invocation) := by
  refine (tidy_work _ _).bind fun outcome => ?_
  cases outcome with
  | ok => exact tidy_done _
  | error failure => exact (tidy_onHost _).bind fun _ => tidy_done _

theorem tidy_explain (stop : Stop) : Tidy (explain stop) := by
  cases stop <;> exact (tidy_onHost _).bind fun _ => tidy_done _

/-! ### On the node -/

variable {words : List String} {code : UInt32} {events : List (Event (Node.sum Host))}
  {before after : Live}

theorem Tidy.onNode {p : Proc Terminal α} (tidy : Tidy p) {a : α} (run : (onNode p).Run events a)
    (path : Follows Live.Step before (Event.lefts events) after) : after = before := by
  have refined : (p.refineFirst (Card.carryOut Card.patience) {} >>= fun last =>
      pure last.1).Run events a := run
  obtain ⟨⟨_, card⟩, own, rfl⟩ := run_bind_pure_iff.mp refined
  obtain ⟨above, above_run, above_path⟩ := exists_carried_of_refineFirst own path
  exact tidy above_run above_path

/-- Whatever the command line and the configuration, and whatever the kernel and the host answer, so
long as the kernel gives out numbers that are not in use and does not fail to remove what is alive:
when the program ends, just those framebuffers, dumb buffers and open files are there that were
there before. -/
theorem leaves_nothing (run : (runWords words).Run events code)
    (path : Follows Live.Step before (Event.lefts events) after) : after = before := by
  unfold runWords at run
  cases asked : Invocation.ofWords words with
  | error stop =>
    rw [asked] at run
    exact (tidy_explain stop).onNode run path
  | ok invocation =>
    rw [asked] at run
    obtain ⟨first, filter, rest, filtering, running, rfl⟩ := run_bind_iff.mp run
    obtain ⟨own, -, rfl⟩ := run_right_iff.mp filtering
    rw [Event.lefts_append, Event.lefts_map_onRight, List.nil_append] at path
    exact (tidy_run invocation).onNode (run_filterNotes_iff.mp running) path

end Cli

/-! ## A command that fails

The display of the session is to be switched off, which the configuration does not allow. This shows
only when the display has been found and has been brought up. -/

namespace Session

open Cli

/-- The connector of the session, as the kernel describes it. -/
def record : Node.ConnectorRecord := ⟨30, 11, 1, 1, ⟨160, 90⟩, [native, slow], [30]⟩

/-- What is to be shown of the log is not said. -/
def unsaid : List (Event Host) := [⟨.setting "RUST_LOG", none⟩]

/-- The configuration is loaded, and the display is brought up. -/
def bringing : List (Event (Node.sum Host)) :=
  [.onRight ⟨.setting "XDG_CONFIG_HOME", none⟩, .onRight ⟨.setting "HOME", none⟩,
    .onRight ⟨.pathExists (.ofString "/etc/krypton/config.toml"), false⟩,
    .onLeft ⟨.openFile Config.default.devicePath, .ok 3⟩, .onLeft ⟨.resources, .ok resources⟩,
    .onLeft ⟨.connector 20 true, .ok record⟩, .onLeft ⟨.properties 20, .ok []⟩,
    .onLeft ⟨.encoder 30, .ok ⟨2, 40, 1⟩⟩, .onLeft ⟨.resources, .ok resources⟩,
    .onLeft ⟨.crtc 40, .ok crtc⟩, .onLeft ⟨.createDumb 64 48 32, .ok ⟨7, 256, 0⟩⟩,
    .onLeft ⟨.addFramebuffer ⟨64, 48, 256, 32, 24, 7⟩, .ok 100⟩,
    .onLeft ⟨.connector 20 false, .ok record⟩,
    .onLeft ⟨.setCrtc 40 100 0 0 [20] (some native), .ok ()⟩]

/-- Everything is given back, and the failure is told. -/
def failing : List (Event (Node.sum Host)) :=
  [.onLeft ⟨.removeFramebuffer 100, .ok ()⟩, .onLeft ⟨.destroyDumb 7, .ok ()⟩,
    .onLeft ⟨.closeFile, ()⟩,
    .onRight ⟨.printError ("Hint: Set power_control = true in config.toml to enable DPMS\n" ++
      "Error: Unsupported: power control is disabled\n"), ()⟩]

/-- A kernel in which others have something alive. -/
def shared : Live := ⟨{5}, {3}, []⟩

instance : DecidableEq (Node.sum Host).Call :=
  inferInstanceAs (DecidableEq (Node.Call ⊕ Host.Call))

/-- The command to switch the display off. -/
def switchOff : Invocation := ⟨0, none, .power .off .external 0⟩

theorem exists_run_logFilter : ∃ filter, (logFilter switchOff).Run unsaid filter := by
  have quiet : (Log.Filter.ofText (String.ofList [])).2 = [] := by cbv
  refine ⟨(Log.Filter.ofText (String.ofList [])).1.add switchOff.directive, ?_⟩
  refine Host.run_ask_bind_iff.mpr ⟨none, [], rfl, ?_⟩
  cases filtered : Log.Filter.ofText (String.ofList []) with
  | mk filter messages =>
    obtain rfl : messages = [] := by rwa [filtered] at quiet
    simp [filtered]

theorem run_failing :
    (runWords ["power", "off"]).Run (unsaid.map Event.onRight ++ (bringing ++ failing)) 1 := by
  have asked : Invocation.ofWords ["power", "off"] = .ok switchOff := by cbv
  have switching : (onNode (run switchOff)).Run (bringing ++ failing) 1 :=
    Proc.replay_eq_some_iff.mp rfl
  obtain ⟨filter, filtering⟩ := exists_run_logFilter
  unfold runWords
  rw [asked]
  have shown : ((logFilter switchOff).right : Proc (Node.sum Host) Log.Filter).Run
      (unsaid.map Event.onRight) filter := Proc.run_right_iff.mpr ⟨unsaid, filtering, rfl⟩
  exact shown.bind (Proc.run_filterNotes_iff.mpr switching)

/-- The command fails with the display brought up, and leaves nothing behind. -/
theorem failing_leaves_nothing :
    ∃ after, Follows Live.Step shared
        (Event.lefts (unsaid.map Event.onRight ++ (bringing ++ failing))) after ∧
      after = shared := by
  have path : ∃ after, Follows Live.Step shared
      (Event.lefts (unsaid.map Event.onRight ++ (bringing ++ failing))) after :=
    ⟨_, _, .opened _ _ _, _, .passing _ rfl _, _, .passing _ rfl _, _, .passing _ rfl _,
      _, .passing _ rfl _, _, .passing _ rfl _, _, .passing _ rfl _,
      _, .created _ _ _ (by decide) (by decide), _, .added _ (by decide) (by decide),
      _, .passing _ rfl _, _, .passing _ rfl _, _, .removed _ _, _, .destroyed _ _,
      _, .closed _, rfl⟩
  obtain ⟨after, follows⟩ := path
  exact ⟨after, follows, leaves_nothing run_failing follows⟩

end Session

end Modeset
