/-
# Proofs.FailFast — injected failures cut a pass short, and change nothing before

What a program does next depends on answers, never on a fault. So under injected failures
it makes the calls that it makes without them, up to the first one that is set to fail,
and ends there (`Program.effect_cut`). That holds of every program, on every inventory.

What a pass says when it is cut is read off its calls: `Whereabouts` follows them, by the
descriptor of the latest cluster lookup, the cluster of the latest device listing and the
device of the latest interface listing. `Program.Located` says that each call reports its
own whereabouts, whatever the answers before it were; a pass is located
(`clusters_located`), so its fault names the place where it was cut (`clusters_fail_fast`).
What the status then says is spelled out by `PassFault.place`, with names, ids and all.
-/
import InventorySync.Pass.Reconcile
import InventorySync.Proofs.Correction
import InventorySync.Proofs.Effect
import InventorySync.Resource.Outcome

namespace InventorySync

set_option autoImplicit false

open Drift (Action Policy)

/-! ## Whereabouts -/

/-- Where a pass is, as far as its calls tell. -/
structure Whereabouts where
  /-- The descriptors whose cluster has not been looked up. -/
  ahead : List Descriptor
  descriptor : Option Descriptor
  cluster : Option Id
  device : Option Id
  deriving DecidableEq

namespace Whereabouts

def start (ds : List Descriptor) : Whereabouts := ⟨ds, none, none, none⟩

/-- Where a pass is when it makes one more call. -/
def advance (w : Whereabouts) : Call → Whereabouts
  | .listClusters _ => ⟨w.ahead.tail, w.ahead.head?, none, none⟩
  | .listDevices f => { w with cluster := some f.clusterId, device := none }
  | .listInterfaces f => { w with device := some f.deviceId }
  | _ => w

def after (w : Whereabouts) (calls : List Call) : Whereabouts := calls.foldl advance w

end Whereabouts

/-- The lookups of a pass outside its devices. -/
def Call.isLookup : Call → Bool
  | .listClusters _ => true
  | .listDeviceRoles _ => true
  | .listDevices _ => true
  | _ => false

/-- The fault names the place of the call that failed: the descriptor whose cluster was
looked up, the role, the cluster whose devices were listed, or the device and its cluster. -/
inductive PassFault.Names (r : Reconciler) (w : Whereabouts) (cause : Fault) :
    Call → PassFault → Prop
  | cluster {d : Descriptor} (here : w.descriptor = some d) :
      Names r w cause (.listClusters ⟨d.name, d.region, d.kind⟩) (.cluster d cause)
  | deviceRole {role : String} (wanted : r.deviceRole = some role) :
      Names r w cause (.listDeviceRoles ⟨role⟩) (.deviceRole role cause)
  | devices {id : Id} (f : DeviceFilter) (name : String) (here : w.cluster = some id) :
      Names r w cause (.listDevices f) (.devices name id cause)
  | device {c : Call} {id clusterId : Id} (label name : String) (within : c.isLookup = false)
      (here : w.device = some id) (on : w.cluster = some clusterId) :
      Names r w cause c (.device label id name clusterId (.inventory cause))

/-- The words of a fault before its cause, spelled out. -/
def PassFault.place : PassFault → String
  | .cluster d _ => "unable to find cluster " ++ d.name ++ "/" ++ d.region ++ "/" ++ d.kind
  | .deviceRole role _ => "unable to find device role " ++ role
  | .devices name id _ =>
    "unable to reconcile devices on cluster " ++ name ++ " (" ++ toString id ++ ")"
  | .device label id clusterName clusterId _ =>
    "unable to reconcile device " ++ label ++ " (" ++ toString id ++ ")" ++ " on cluster " ++
      clusterName ++ " (" ++ toString clusterId ++ ")"

theorem Descriptor.append_display (front : String) (d : Descriptor) :
    front ++ d.display = front ++ d.name ++ "/" ++ d.region ++ "/" ++ d.kind := by
  simp only [display, ← String.append_assoc]

theorem PassFault.append_named (front name : String) (id : Id) :
    front ++ named name id = front ++ name ++ " (" ++ toString id ++ ")" := by
  simp only [named, ← String.append_assoc]

/-- The message of such a fault has these words, and then those of the cause. -/
theorem PassFault.Names.message {r : Reconciler} {w : Whereabouts} {cause : Fault} {c : Call}
    {fault : PassFault} (names : Names r w cause c fault) :
    fault.message = fault.place ++ ": " ++ cause.message := by
  cases names with
  | @cluster d here =>
      exact congrArg (· ++ ": " ++ cause.message) (d.append_display "unable to find cluster ")
  | deviceRole wanted => rfl
  | @devices id f name here =>
      exact congrArg (· ++ ": " ++ cause.message)
        (append_named "unable to reconcile devices on cluster " name id)
  | @device c id clusterId label name within here on =>
      have words : "unable to reconcile device " ++ named label id ++ " on cluster " ++
          named name clusterId = (PassFault.device label id name clusterId (.inventory cause)).place := by
        rw [append_named, append_named]
        rfl
      exact congrArg (· ++ ": " ++ cause.message) words

/-- The message of a failed call ends with the message that was injected. -/
theorem Call.message_fault (c : Call) (message : String) :
    ∃ front, (c.fault (.api message)).message = front ++ message := by
  cases c <;>
    first
    | exact ⟨_, rfl⟩
    | exact ⟨"", (String.empty_append).symm⟩

/-! ## Programs -/

@[simp] theorem Effect.calls_after {ε α : Type} (c : Call) (inv : Inventory) (e : Effect ε α) :
    (e.after c inv).calls = c :: e.calls := rfl

namespace Program

variable {ε ε' α β : Type}

/-- Every call reports as it should where it is made, whatever the answers before it were;
and so does the end of the program, if it comes to a value. -/
def Located (reports : Whereabouts → Call → (Fault → ε) → Prop) (ends : Whereabouts → α → Prop) :
    Program ε α → Whereabouts → Prop
  | done a, w => ends w a
  | fail _, _ => True
  | note _ rest, w => Located reports ends rest w
  | call c onFault next, w =>
    reports (w.advance c) c onFault ∧ ∀ a, Located reports ends (next a) (w.advance c)

variable {reports : Whereabouts → Call → (Fault → ε) → Prop}

theorem located_bind {first : Whereabouts → α → Prop} {ends : Whereabouts → β → Prop}
    {p : Program ε α} {f : α → Program ε β} {w : Whereabouts} (located : p.Located reports first w)
    (next : ∀ w a, first w a → (f a).Located reports ends w) :
    (p >>= f).Located reports ends w := by
  change (p.bind f).Located reports ends w
  induction p generalizing w with
  | done a => exact next w a located
  | fail e => trivial
  | note line rest ih => exact ih located
  | call c onFault after ih => exact ⟨located.1, fun a => ih a (located.2 a)⟩

theorem located_mapFailure {reports' : Whereabouts → Call → (Fault → ε') → Prop}
    {ends : Whereabouts → α → Prop} {g : ε → ε'} {p : Program ε α} {w : Whereabouts}
    (located : p.Located reports ends w)
    (context : ∀ w c onFault, reports w c onFault → reports' w c fun f => g (onFault f)) :
    (p.mapFailure g).Located reports' ends w := by
  induction p generalizing w with
  | done a => exact located
  | fail e => trivial
  | note line rest ih => exact ih located
  | call c onFault after ih =>
      exact ⟨context _ c onFault located.1, fun a => ih a (located.2 a)⟩

theorem located_ofExcept {ends : Whereabouts → α → Prop} {w : Whereabouts} (result : Except ε α)
    (ended : ∀ a, ends w a) : (ofExcept result).Located reports ends w := by
  cases result with
  | ok a => exact ended a
  | error e => trivial

/-! ## Cutting a program short -/

section Call

variable {F : Failures} {c : Call} {inv inv' : Inventory}

theorem attempt_of_passing (passing : F c.operation = none) (inv : Inventory) :
    inv.attempt F c = inv.attempt .none c := by
  simp only [Inventory.attempt, passing, Failures.none]

variable (onFault : Fault → ε) (next : c.Answer → Program ε α)

theorem effect_call_of_ok {a : c.Answer} (answered : inv.attempt F c = (.ok a, inv')) :
    (call c onFault next).effect F inv = ((next a).effect F inv').after c inv' := by
  simp only [effect, answered]

theorem effect_call_of_error {f : Fault} (answered : inv.attempt F c = (.error f, inv')) :
    (call c onFault next).effect F inv = ⟨.error (onFault f), [(c, inv')], inv'⟩ := by
  simp only [effect, answered]

/-- The first call that is made is the one at the head, whatever becomes of it. -/
theorem effect_call_calls (F : Failures) (inv : Inventory) :
    ∃ after, ((call c onFault next).effect F inv).calls = c :: after := by
  rcases answered : inv.attempt F c with ⟨f | a, inv'⟩
  · exact ⟨[], by rw [effect_call_of_error onFault next answered]; rfl⟩
  · exact ⟨_, by rw [effect_call_of_ok onFault next answered, Effect.calls_after]⟩

end Call

/-- The failures cut a program at a call: it makes the calls that it makes without them up
to that one, which is set to fail, and leaves the inventory as it was before that call. -/
structure CutAt (p : Program ε α) (F : Failures) (inv : Inventory) (before : List Call) (c : Call)
    (message : String) (onFault : Fault → ε) : Prop where
  whole : ∃ after, (p.effect .none inv).calls = before ++ c :: after
  through : ∀ b ∈ before, F b.operation = none
  failing : F c.operation = some message
  calls : (p.effect F inv).calls = before ++ [c]
  /-- The program without failures, broken off before that call. -/
  pause : ((p.upTo before.length).effect .none inv).calls = before
  inventory : (p.effect F inv).inventory = ((p.upTo before.length).effect .none inv).inventory
  result : (p.effect F inv).result = .error (onFault (c.fault (.api message)))

/-- A cut right here. -/
theorem cutAt_call {F : Failures} {c : Call} {message : String}
    (failing : F c.operation = some message) (onFault : Fault → ε)
    (next : c.Answer → Program ε α) (inv : Inventory) :
    (call c onFault next).CutAt F inv [] c message onFault := by
  have answered : inv.attempt F c = (.error (c.fault (.api message)), inv) := by
    simp only [Inventory.attempt, failing]
  have cut := effect_call_of_error onFault next answered
  exact {
    whole := effect_call_calls onFault next .none inv
    through := List.forall_mem_nil _
    failing := failing
    calls := by rw [cut]; rfl
    pause := rfl
    inventory := by rw [cut]; rfl
    result := by rw [cut] }

/-- A cut further on, after a call that gets through. -/
theorem CutAt.after_call {F : Failures} {inv inv' : Inventory} {c : Call} {onFault : Fault → ε}
    {next : c.Answer → Program ε α} {a : c.Answer} (passing : F c.operation = none)
    (answered : inv.attempt .none c = (.ok a, inv')) {before : List Call} {d : Call}
    {message : String} {onFault' : Fault → ε}
    (cut : (next a).CutAt F inv' before d message onFault') :
    (call c onFault next).CutAt F inv (c :: before) d message onFault' := by
  have here := effect_call_of_ok onFault next
    ((attempt_of_passing passing inv).trans answered)
  have whole := effect_call_of_ok onFault next answered
  have pause : ((call c onFault next).upTo (c :: before).length).effect .none inv =
      (((next a).upTo before.length).effect .none inv').after c inv' :=
    effect_call_of_ok onFault _ answered
  obtain ⟨rest, calls⟩ := cut.whole
  refine ⟨⟨rest, ?_⟩, List.forall_mem_cons.2 ⟨passing, cut.through⟩, cut.failing, ?_, ?_, ?_, ?_⟩
  · rw [whole, Effect.calls_after, calls]
    rfl
  · rw [here, Effect.calls_after, cut.calls]
    rfl
  · rw [pause, Effect.calls_after, cut.pause]
  · rw [here, pause]
    exact cut.inventory
  · rw [here]
    exact cut.result

/-- **Under failures a program goes through as without them, or is cut at the first call
that is set to fail**, and then reports what it should there. -/
theorem effect_cut {ends : Whereabouts → α → Prop} {p : Program ε α} {w : Whereabouts}
    (located : p.Located reports ends w) (F : Failures) (inv : Inventory) :
    ((∀ c ∈ (p.effect .none inv).calls, F c.operation = none) ∧
        p.effect F inv = p.effect .none inv) ∨
      ∃ before c message onFault, p.CutAt F inv before c message onFault ∧
        reports (w.after (before ++ [c])) c onFault := by
  induction p generalizing w inv with
  | done a => exact .inl ⟨List.forall_mem_nil _, rfl⟩
  | fail e => exact .inl ⟨List.forall_mem_nil _, rfl⟩
  | note line rest ih =>
      obtain through | ⟨before, c, message, onFault, cut, reported⟩ := ih located inv
      · exact .inl through
      · exact .inr ⟨before, c, message, onFault,
          ⟨cut.whole, cut.through, cut.failing, cut.calls, cut.pause, cut.inventory, cut.result⟩,
          reported⟩
  | call c onFault next ih =>
      cases failing : F c.operation with
      | some message =>
          exact .inr ⟨[], c, message, onFault, cutAt_call failing onFault next inv, located.1⟩
      | none =>
          have same := attempt_of_passing failing inv
          rcases answered : inv.attempt .none c with ⟨f | a, inv'⟩
          · -- The call fails by itself, and ends the program on both sides.
            rw [effect_call_of_error onFault next answered,
              effect_call_of_error onFault next (same.trans answered)]
            exact .inl ⟨List.forall_mem_singleton.2 failing, rfl⟩
          · obtain ⟨through, equal⟩ | ⟨before, d, message, onFault', cut, reported⟩ :=
              ih a (located.2 a) inv'
            · rw [effect_call_of_ok onFault next answered,
                effect_call_of_ok onFault next (same.trans answered), equal]
              exact .inl ⟨List.forall_mem_cons.2 ⟨failing, through⟩, rfl⟩
            · exact .inr ⟨c :: before, d, message, onFault', cut.after_call failing answered,
                reported⟩

end Program

/-! ## Passes -/

namespace Reconciler

variable {r : Reconciler} {w : Whereabouts}

/-- Every call of a pass reports the place where it is made. -/
def Reports (r : Reconciler) (w : Whereabouts) (c : Call) (report : Fault → PassFault) : Prop :=
  ∀ cause, PassFault.Names r w cause c (report cause)

/-- The calls of a visit are made at one place, and no lookups. -/
def AtDevice {ε : Type} (context : Fault → ε) (here w : Whereabouts) (c : Call)
    (report : Fault → ε) : Prop :=
  w = here ∧ c.isLookup = false ∧ report = context

theorem located_gatherBound (p : Policy) (interfaces : List Interface) (bound : Id → List Address)
    (w : Whereabouts) :
    (gatherBound p interfaces bound).Located (AtDevice id w) (fun w' _ => w' = w) w := by
  induction interfaces generalizing bound with
  | nil => exact rfl
  | cons i rest ih =>
      rw [gatherBound]
      split
      · exact ⟨⟨rfl, rfl, rfl⟩, fun found => ih _⟩
      · exact ih bound

theorem located_snapshot (p : Policy) (d : Device) (w : Whereabouts) :
    let here := { w with device := some d.id }
    (snapshot p d).Located (AtDevice id here) (fun w' _ => w' = here) w := by
  intro here
  have listing : (Program.ask (.listInterfaces (.ofDevice d.id))).Located (AtDevice id here)
      (fun w' _ => w' = here) w := ⟨⟨rfl, rfl, rfl⟩, fun _ => rfl⟩
  refine Program.located_bind listing fun w' interfaces same => ?_
  subst same
  refine Program.located_bind (located_gatherBound p interfaces _ here) fun w' bound same => ?_
  subst same
  exact ⟨⟨rfl, rfl, rfl⟩, fun platforms => rfl⟩

theorem located_apply (x : Action) (w : Whereabouts) :
    (apply x).Located (AtDevice id w) (fun w' _ => w' = w) w := by
  cases x <;> exact ⟨⟨rfl, rfl, rfl⟩, fun _ => rfl⟩

theorem located_carryOut (dryRun : Bool) (d : Device) (actions : List Action) (w : Whereabouts) :
    (carryOut dryRun d actions).Located (AtDevice id w) (fun w' _ => w' = w) w := by
  induction actions with
  | nil => exact rfl
  | cons x rest ih =>
      cases dryRun with
      | true => exact ih
      | false =>
          refine Program.located_bind (located_apply x w) fun w' _ same => ?_
          subst same
          exact ih

theorem located_device (r : Reconciler) (d : Device) (w : Whereabouts) :
    let here := { w with device := some d.id }
    (r.device d).Located (AtDevice .inventory here) (fun w' _ => w' = here) w := by
  intro here
  have context : ∀ w c report, AtDevice id here w c report →
      AtDevice .inventory here w c fun f => DeviceFault.inventory (report f) :=
    fun w c report ⟨same, within, plain⟩ => ⟨same, within, plain ▸ rfl⟩
  refine Program.located_bind
    (Program.located_mapFailure (located_snapshot r.policy d w) context) fun w' found same => ?_
  subst same
  have decided :
      (Program.ofExcept ((Drift.resolve r.policy found).mapError DeviceFault.drift)).Located
        (AtDevice DeviceFault.inventory here) (fun w' _ => w' = here) here :=
    Program.located_ofExcept _ fun _ => rfl
  refine Program.located_bind decided fun w' actions same => ?_
  subst same
  split
  · exact rfl
  · exact Program.located_bind
      (Program.located_mapFailure (located_carryOut r.dryRun d actions _) context)
      fun w' _ same => same

theorem located_devices (r : Reconciler) (c : Cluster) (found : List Device) (report : Report)
    (on : w.cluster = some c.id) :
    (r.devices c found report).Located r.Reports (fun w' _ => w'.ahead = w.ahead) w := by
  induction found generalizing w report with
  | nil => exact rfl
  | cons d rest ih =>
      rw [devices]
      split
      · refine Program.located_bind (Program.located_mapFailure (r.located_device d w) ?_)
          fun w' actions same => ?_
        · rintro w' call report ⟨rfl, within, rfl⟩ cause
          exact .device d.label c.name within rfl on
        · subst same
          exact ih (w := { w with device := some d.id }) _ on
      · exact ih _ on

theorem located_roleId (r : Reconciler) (w : Whereabouts) :
    r.roleId.Located r.Reports (fun w' _ => w' = w) w := by
  rw [roleId]
  split
  · rename_i role wanted
    have finding : (Program.findDeviceRole role).Located
        (fun _ c report => c = .listDeviceRoles ⟨role⟩ ∧ report = id) (fun w' _ => w' = w) w :=
      ⟨⟨rfl, rfl⟩, fun found => Program.located_ofExcept _ fun _ => rfl⟩
    refine Program.located_bind (Program.located_mapFailure finding ?_) fun w' found same => same
    rintro w' c report ⟨rfl, rfl⟩ cause
    exact .deviceRole wanted
  · exact rfl

/-- The descriptor ahead is the one whose cluster is looked up. -/
theorem located_cluster (r : Reconciler) (d : Descriptor) (rest : List Descriptor)
    (next : w.ahead = d :: rest) :
    (r.cluster d).Located r.Reports (fun w' _ => w'.ahead = rest) w := by
  have finding : (Program.findCluster ⟨d.name, d.region, d.kind⟩).Located
      (fun w' c report =>
        w'.descriptor = some d ∧ c = .listClusters ⟨d.name, d.region, d.kind⟩ ∧ report = id)
      (fun w' _ => w'.ahead = rest) w :=
    ⟨⟨congrArg List.head? next, rfl, rfl⟩,
      fun found => Program.located_ofExcept _ fun _ => congrArg List.tail next⟩
  refine Program.located_bind (Program.located_mapFailure finding ?_) fun w' c ahead => ?_
  · rintro w' c report ⟨here, rfl, rfl⟩ cause
    exact .cluster here
  · change (r.roleId >>= _).Located r.Reports _ w'
    refine Program.located_bind (r.located_roleId w') fun w'' role same => ?_
    subst same
    have listing : ((Program.ask (.listDevices { clusterId := c.id, roleId := role })).mapFailure
        (.devices c.name c.id)).Located r.Reports
        (fun w' _ => w'.ahead = rest ∧ w'.cluster = some c.id) w'' :=
      ⟨fun cause => .devices _ c.name rfl, fun found => ⟨ahead, rfl⟩⟩
    refine Program.located_bind listing fun w₁ found ⟨ahead₁, on⟩ => ?_
    exact Program.located_bind (r.located_devices c found _ on)
      fun w₂ report same => same.trans ahead₁

theorem located_clustersFrom (r : Reconciler) (ds : List Descriptor) (report : Report)
    (next : w.ahead = ds) :
    (r.clustersFrom ds report).Located r.Reports (fun _ _ => True) w := by
  induction ds generalizing w report with
  | nil => trivial
  | cons d rest ih =>
      exact Program.located_bind (r.located_cluster d rest next) fun w' one ahead => ih _ ahead

/-- **Every call of a pass reports the place where it is made**, read off the calls so far. -/
theorem clusters_located (r : Reconciler) (ds : List Descriptor) :
    (r.clusters ds).Located r.Reports (fun _ _ => True) (.start ds) :=
  r.located_clustersFrom ds _ rfl

/-- **Failures cut a pass at the first call that is set to fail, and nowhere else.** The
calls are those of the pass without failures, up to and with that one; the inventory is the
one that pass has before that call; and the status names the place, and ends with the message
that was injected. If no call is set to fail, the failures make no difference. -/
theorem clusters_fail_fast (r : Reconciler) (ds : List Descriptor) (s : Store) :
    let whole := (r.clusters ds).runOn { s with failures := .none }
    let paused n := ((r.clusters ds).upTo n).runOn { s with failures := .none }
    let ran := (r.clusters ds).runOn s
    ∃ made, whole.store.calls = s.calls ++ made ∧
      ((∀ c ∈ made, s.failures c.operation = none) ∧ ran.result = whole.result ∧
          ran.store.calls = whole.store.calls ∧ ran.store.inventory = whole.store.inventory ∨
        ∃ before c after message, made = before ++ c :: after ∧
          (∀ b ∈ before, s.failures b.operation = none) ∧
          s.failures c.operation = some message ∧ ran.store.calls = s.calls ++ before ++ [c] ∧
          (paused before.length).store.calls = s.calls ++ before ∧
          ran.store.inventory = (paused before.length).store.inventory ∧
          ∃ fault wrapping, ran.result = .error fault ∧
            PassFault.Names r ((Whereabouts.start ds).after (before ++ [c]))
              (c.fault (.api message)) c fault ∧
            Outcome.ofResult ran.result =
              ⟨.error, fault.place ++ ": " ++ (wrapping ++ message)⟩) := by
  intro whole paused ran
  simp only [whole, paused, ran, Program.runOn_result, Program.runOn_store]
  refine ⟨_, rfl, ?_⟩
  obtain ⟨through, equal⟩ | ⟨before, c, message, onFault, cut, reported⟩ :=
    Program.effect_cut (r.clusters_located ds) s.failures s.inventory
  · rw [equal]
    exact .inl ⟨through, rfl, rfl, rfl⟩
  · obtain ⟨after, calls⟩ := cut.whole
    obtain ⟨wrapping, worded⟩ := c.message_fault message
    have names := reported (c.fault (.api message))
    refine .inr ⟨before, c, after, message, calls, cut.through, cut.failing, ?_, ?_, ?_,
      onFault (c.fault (.api message)), wrapping, cut.result, names, ?_⟩
    · rw [cut.calls, List.append_assoc]
    · rw [cut.pause]
    · exact cut.inventory
    · rw [cut.result, Outcome.ofResult, names.message, worded]

/-- A pass that is cut at its first write. Six calls got through, the interfaces are as they were,
and the status tells the device and its cluster by name and id. -/
theorem clusters_fail_fast_drifted :
    let r : Reconciler := ⟨.standard "esxi", none, false⟩
    let east : Descriptor := ⟨"east", "", ""⟩
    let s : Store := ⟨.drifted, [], Failures.none.set .updateInterface "busy"⟩
    let ran := (r.clusters [east]).runOn s
    let rename : Call := .updateInterface 3 ⟨some "remoteboard"⟩
    ran.store.calls.length = 7 ∧
      ran.store.inventory.interfaces.rows = Inventory.drifted.interfaces.rows ∧
      (∃ before fault wrapping, ran.store.calls = before ++ [rename] ∧
        (∀ b ∈ before, b.operation ≠ .updateInterface) ∧ ran.result = .error fault ∧
        PassFault.Names r ⟨[], some east, some 1, some 2⟩ (rename.fault (.api "busy")) rename fault ∧
        Outcome.ofResult ran.result = ⟨.error, fault.place ++ ": " ++ (wrapping ++ "busy")⟩) ∧
      Outcome.ofResult ran.result =
        ⟨.error, "unable to reconcile device host (2) on cluster east (1): " ++
          "unable to update interface 3: busy"⟩ := by
  intro r east s ran rename
  refine ⟨by decide +kernel, by decide +kernel, ?_, by decide +kernel⟩
  obtain ⟨all, -, ⟨-, -, same, -⟩ | ⟨before, c, after, message, -, through, failing, calls, -, -,
    fault, wrapping, failed, names, told⟩⟩ := r.clusters_fail_fast [east] s
  · have longer : ran.store.calls.length ≠
        ((r.clusters [east]).runOn { s with failures := .none }).store.calls.length := by
      decide +kernel
    exact absurd (congrArg List.length same) longer
  · change ran.store.calls = before ++ [c] at calls
    have last : ran.store.calls.getLast? = some rename := by decide +kernel
    obtain rfl : c = rename := by
      rw [calls, List.getLast?_concat] at last
      exact Option.some.inj last
    obtain rfl : "busy" = message := Option.some.inj failing
    have here : (Whereabouts.start [east]).after ran.store.calls =
        ⟨[], some east, some 1, some 2⟩ := by decide +kernel
    rw [calls] at here
    refine ⟨before, fault, wrapping, calls, fun b earlier update => ?_, failed, here ▸ names, told⟩
    have passed := through b earlier
    rw [update] at passed
    cases passed

/-- One that is cut when it lists devices. -/
example :
    Outcome.ofResult ((clusters ⟨.standard "esxi", none, false⟩ [⟨"east", "", ""⟩]).runOn
      ⟨.drifted, [], Failures.none.set .listDevices "busy"⟩).result =
        ⟨.error, "unable to reconcile devices on cluster east (1): busy"⟩ := by
  decide +kernel

end Reconciler

end InventorySync
