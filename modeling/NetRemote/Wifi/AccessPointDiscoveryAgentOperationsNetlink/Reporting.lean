import NetRemote.Foundation.Account
import NetRemote.Wifi.AccessPointDiscoveryAgentOperationsNetlink.Departures
import NetRemote.Wifi.AccessPointDiscoveryAgentOperationsNetlink.EventLoop

namespace NetRemote.Wifi.AccessPointDiscoveryAgentOperationsNetlink

open Foundation Foundation.Account Foundation.Bytes Foundation.Program Netlink

def parsed (netlinkMessage : ParsedMessage) : NetlinkMessage where
  headerValid := netlinkMessage.headerValid
  attributesValid := netlinkMessage.attributesValid
  cmd := netlinkMessage.cmd
  nl80211Interface := netlinkMessage.nl80211Interface

def received (socket : Pointer) : Library.Exchange → List NetlinkMessage
  | ⟨.NlRecvmsgsDefault other, received⟩ =>
      if other = socket then (Received.messages received).map parsed else []
  | _ => []

-- The messages that arrived on a socket, in their order.
def receivedOn (socket : Pointer) (trace : List Library.Exchange) : List NetlinkMessage :=
  trace.flatMap (received socket)

def presenceChange : Library.Exchange → Option Change
  | ⟨.PresenceChanged presence accessPoint, _⟩ => some (presence, accessPoint)
  | _ => none

-- What the presence callback was invoked with, in the order of the calls.
def reportedIn (trace : List Library.Exchange) : List Change := trace.filterMap presenceChange

def Considered (message : NetlinkMessage) : Prop :=
  message.headerValid = true ∧ message.attributesValid = true ∧
    (message.cmd = NL80211_CMD_NEW_INTERFACE ∨ message.cmd = NL80211_CMD_DEL_INTERFACE)

instance : DecidablePred Considered := fun message =>
  inferInstanceAs (Decidable (message.headerValid = true ∧ message.attributesValid = true ∧
    (message.cmd = NL80211_CMD_NEW_INTERFACE ∨ message.cmd = NL80211_CMD_DEL_INTERFACE)))

-- The interface whose wiphy is looked up for a message.
def lookedUp (message : NetlinkMessage) : Option Nl80211Interface :=
  if Considered message then message.nl80211Interface else none

def changesOf (message : Handled) : List Change :=
  if !message.1.headerValid then []
  else if !message.1.attributesValid then []
  else if message.1.cmd = NL80211_CMD_NEW_INTERFACE ∨
      message.1.cmd = NL80211_CMD_DEL_INTERFACE then
    let accessPointPresenceEvent : AccessPointPresenceEvent :=
      if message.1.cmd = NL80211_CMD_NEW_INTERFACE then .Arrived else .Departed
    match message.1.nl80211Interface with
    | none => []
    | some nl80211Interface =>
        if nl80211Interface.supportsAccessPointMode message.2.fromIndex then
          [(accessPointPresenceEvent, makeAccessPoint nl80211Interface message.2)]
        else []
  else []

-- The access point that is made of a message and the callback that is told of it.
def told (message : Handled) : List Library.Exchange :=
  (changesOf message).flatMap fun change =>
    [⟨.MakeAccessPoint change.2.interfaceName, (message.2.object, message.2.controllable)⟩,
      ⟨.PresenceChanged change.1 change.2, ()⟩]

section Reporting

variable (order : GroupOrder) (protocolState : Nl80211ProtocolState)

-- What a message is answered with: the lookup that is made for it finds the wiphy, and the
-- callback is told of it before anything else is done.
inductive Serves : List Library.Exchange → Handled → Prop
  | Ignored {message : Handled} : lookedUp message.1 = none → Serves [] message
  | LookedUp {message : Handled} {nl80211Interface : Nl80211Interface}
      {lookup : List Library.Exchange} :
      lookedUp message.1 = some nl80211Interface →
      (Nl80211Wiphy.fromIndex order (some protocolState) nl80211Interface.wiphyIndex).Runs lookup
        (.ok (message.2.fromIndex nl80211Interface.wiphyIndex)) →
      Serves (lookup ++ told message) message

def Silent (socket : Pointer) (exchange : Library.Exchange) : Prop :=
  received socket exchange = [] ∧ presenceChange exchange = none

-- The messages that wait are handled in their order, each with exchanges of its own that no
-- other message has a part in. Outside of these the callback is not invoked. Where the
-- lookup for a message throws, that message and those behind it are left.
inductive Served (socket : Pointer) :
    List NetlinkMessage → List Library.Exchange → List Handled → List NetlinkMessage →
      Except NetlinkFault Unit → Prop
  | Done (waiting : List NetlinkMessage) : Served socket waiting [] [] waiting (.ok ())
  | Thrown {waiting : List NetlinkMessage} {message : NetlinkMessage}
      {nl80211Interface : Nl80211Interface} {lookup closing : List Library.Exchange}
      {fault : NetlinkFault} :
      lookedUp message = some nl80211Interface →
      (Nl80211Wiphy.fromIndex order (some protocolState) nl80211Interface.wiphyIndex).Runs lookup
        (.error fault) →
      (∀ exchange ∈ closing, Silent socket exchange) →
      Served socket (message :: waiting) (lookup ++ closing) [] (message :: waiting)
        (.error fault)
  | Pass {waiting rest : List NetlinkMessage} {exchange : Library.Exchange}
      {trace : List Library.Exchange} {handled : List Handled}
      {outcome : Except NetlinkFault Unit} :
      presenceChange exchange = none →
      Served socket (waiting ++ received socket exchange) trace handled rest outcome →
      Served socket waiting (exchange :: trace) handled rest outcome
  | Serve {waiting rest : List NetlinkMessage} {segment trace : List Library.Exchange}
      {message : Handled} {handled : List Handled} {outcome : Except NetlinkFault Unit} :
      Serves order protocolState segment message →
      Served socket waiting trace handled rest outcome →
      Served socket (message.1 :: waiting) (segment ++ trace) (message :: handled) rest outcome

-- What the thread owns is not handed out again while it runs.
def Distinct (address : Nat) (exchange : Library.Exchange) : Prop :=
  acquired exchange ≠ some (.Socket address)

instance (address : Nat) : DecidablePred (Distinct address) := fun exchange =>
  inferInstanceAs (Decidable (acquired exchange ≠ some (.Socket address)))

section Queue

variable {order protocolState} {socket : Pointer} {waiting rest left : List NetlinkMessage}
  {past now : List Library.Exchange} {handled later : List Handled}
  {outcome : Except NetlinkFault Unit}

theorem served_append (hpast : Served order protocolState socket waiting past handled rest (.ok ()))
    (hnow : Served order protocolState socket rest now later left outcome) :
    Served order protocolState socket waiting (past ++ now) (handled ++ later) left outcome := by
  generalize hended : (Except.ok () : Except NetlinkFault Unit) = ended at hpast
  induction hpast with
  | Done waiting => exact hnow
  | Thrown => cases hended
  | Pass hexchange _ ih => exact .Pass hexchange (ih hnow hended)
  | Serve hserves _ ih =>
      rw [List.append_assoc]
      exact .Serve hserves (ih hnow hended)

theorem served_silent (h : ∀ exchange ∈ now, Silent socket exchange) :
    Served order protocolState socket waiting now [] waiting (.ok ()) := by
  induction now with
  | nil => exact .Done waiting
  | cons exchange now ih =>
      rw [List.forall_mem_cons] at h
      apply Served.Pass h.1.2
      rw [h.1.1, List.append_nil]
      exact ih h.2

theorem served_after (hpast : Served order protocolState socket waiting past handled rest outcome)
    (h : ∀ exchange ∈ now, Silent socket exchange) :
    Served order protocolState socket waiting (past ++ now) handled rest outcome := by
  induction hpast with
  | Done waiting => exact served_silent h
  | Thrown hlookedUp hlookup hclosing =>
      rw [List.append_assoc]
      exact .Thrown hlookedUp hlookup (List.forall_mem_append.mpr ⟨hclosing, h⟩)
  | Pass hexchange _ ih => exact .Pass hexchange ih
  | Serve hserves _ ih =>
      rw [List.append_assoc]
      exact .Serve hserves ih

end Queue

def serving (address : Nat) : Account Library NetlinkFault where
  credible := Distinct address
  silent := Silent (some address)
  accounts trace outcome := ∃ handled rest,
    Served order protocolState (some address) [] trace handled rest outcome ∧
      (outcome = .ok () → rest = [])
  nil := ⟨[], [], .Done [], fun _ => rfl⟩
  append := by
    rintro past now outcome ⟨handled, rest, hpast, hrest⟩ ⟨later, left, hnow, hleft⟩
    obtain rfl := hrest rfl
    exact ⟨handled ++ later, left, served_append hpast hnow, hleft⟩
  after := by
    rintro past now outcome ⟨handled, rest, hpast, hrest⟩ hnow
    exact ⟨handled, rest, served_after hpast hnow, hrest⟩

section Quiet

variable {order} {protocolState} {address : Nat} {α : Type}

def Unheard (address : Nat) (request : LibraryRequest) : Prop :=
  ∀ reply : request.Reply, Silent (some address) ⟨request, reply⟩

theorem quiet_call {request : LibraryRequest} (h : Unheard address request) :
    (serving order protocolState address).Quiet (call request) :=
  quiet_of_within ⟨h, fun _ => trivial⟩

theorem unheard_receive {socket : Pointer} (h : socket ≠ some address) :
    Unheard address (.NlRecvmsgsDefault socket) :=
  fun _ => ⟨if_neg h, rfl⟩

theorem unheard_destroyMessage (netlinkMessage : Netlink.NetlinkMessage) :
    netlinkMessage.destroy.Within (Unheard address) := by
  obtain ⟨message⟩ := netlinkMessage
  cases message with
  | none => trivial
  | some message => exact ⟨fun _ => ⟨rfl, rfl⟩, fun _ => trivial⟩

theorem unheard_destroySocket (netlinkSocket : NetlinkSocket) :
    netlinkSocket.destroy.Within (Unheard address) := by
  obtain ⟨socket⟩ := netlinkSocket
  cases socket with
  | none => trivial
  | some socket => exact ⟨fun _ => ⟨rfl, rfl⟩, fun _ => trivial⟩

theorem unheard_allocateMessage : Netlink.NetlinkMessage.allocate.Within (Unheard address) :=
  ⟨fun _ => ⟨rfl, rfl⟩, fun _ => trivial⟩

theorem unheard_allocateSocket : NetlinkSocket.allocate.Within (Unheard address) := by
  refine ⟨fun _ => ⟨rfl, rfl⟩, fun socket => ?_⟩
  rcases (socket : Pointer) with _ | socket <;> trivial

theorem within_failed (ret : Int) (netlinkSocket : NetlinkSocket) :
    (Program.onlyIf (ret < 0) (.Throw (failedToConnect ret)) >>= fun _ =>
      (.Return netlinkSocket : NetlinkAction NetlinkSocket)).Within (Unheard address) :=
  Program.within_bind (Program.within_onlyIf _ trivial) fun _ => trivial

theorem unheard_createNl80211Socket : createNl80211Socket.Within (Unheard address) := by
  apply Program.within_bind unheard_allocateSocket
  intro netlinkSocket
  apply Program.within_attempt
  · exact ⟨fun _ => ⟨rfl, rfl⟩, fun ret => within_failed ret netlinkSocket⟩
  · exact fun _ => trivial
  · exact fun _ => Program.within_bind (unheard_destroySocket netlinkSocket) fun _ => trivial

-- The socket of a lookup is another one.
theorem obtains_allocateSocket :
    (serving order protocolState address).Obtains
      (fun netlinkSocket => netlinkSocket.socket ≠ some address) NetlinkSocket.allocate := by
  intro trace netlinkSocket hruns hcredible
  cases hruns with
  | Ask reply hrest =>
      have hother := hcredible _ List.mem_cons_self
      rcases (reply : Pointer) with _ | socket
      · cases hrest
      · cases hrest
        exact fun heq => hother (congrArg (Option.map Handle.Socket) heq)

theorem obtains_createNl80211Socket :
    (serving order protocolState address).Obtains
      (fun netlinkSocket => netlinkSocket.socket ≠ some address) createNl80211Socket := by
  unfold createNl80211Socket createConnectedSocket
  refine obtains_bind obtains_allocateSocket fun netlinkSocket hother => ?_
  apply obtains_of_returns
  apply Program.returns_guarded
  exact Program.returns_last fun _ => Program.returns_last fun _ => hother

theorem quiet_transact {nl80211Socket : NetlinkSocket} (h : nl80211Socket.socket ≠ some address)
    (nl80211Message : Netlink.NetlinkMessage) :
    (serving order protocolState address).Quiet (transact nl80211Socket nl80211Message) := by
  apply quiet_bind (quiet_call fun _ => ⟨rfl, rfl⟩)
  intro (ret : Int)
  split_ifs
  · exact quiet_return _
  · apply quiet_bind (quiet_call fun _ => ⟨rfl, rfl⟩)
    intro (ret : Int)
    split_ifs
    · exact quiet_return _
    · apply quiet_bind (quiet_call (unheard_receive h))
      exact fun _ => quiet_return _

theorem quiet_fromIndex (wiphyIndex : UInt32) :
    (serving order protocolState address).Quiet
      (Nl80211Wiphy.fromIndex order (some protocolState) wiphyIndex) := by
  apply quiet_bind (quiet_of_within unheard_allocateMessage)
  intro nl80211MessageGetWiphy
  apply quiet_enclosed (quiet_of_within (unheard_destroyMessage _))
  split_ifs
  · exact quiet_return _
  · apply quiet_bind (quiet_return protocolState)
    intro _
    apply quiet_bind (quiet_call fun _ => ⟨rfl, rfl⟩)
    intro (populated : Bool)
    split_ifs
    · exact quiet_return _
    · apply quiet_bind (quiet_call fun _ => ⟨rfl, rfl⟩)
      intro _
      apply quiet_passed (quiet_of_within unheard_createNl80211Socket) obtains_createNl80211Socket
      intro nl80211Socket hother
      apply quiet_enclosed (quiet_of_within (unheard_destroySocket _))
      exact quiet_bind (quiet_transact hother _) fun _ => quiet_return _

end Quiet

section Message

variable {order} {protocolState} {address : Nat}

-- What is made of an interface once its wiphy is looked up.
def reportInterface (cmd : UInt8) (nl80211Interface : Nl80211Interface)
    (wiphy : Option Nl80211Wiphy) : NetlinkAction Unit :=
  if nl80211Interface.supportsAccessPointMode fun _ => wiphy then do
    let (object, controllable) : Nat × Bool ← call (.MakeAccessPoint nl80211Interface.name)
    let accessPoint := makeAccessPoint nl80211Interface ⟨fun _ => wiphy, object, controllable⟩
    call (.PresenceChanged (if cmd = NL80211_CMD_NEW_INTERFACE then .Arrived else .Departed)
      accessPoint)
  else return ()

theorem lookedUp_eq_some {message : NetlinkMessage} {nl80211Interface : Nl80211Interface} :
    lookedUp message = some nl80211Interface ↔
      Considered message ∧ message.nl80211Interface = some nl80211Interface := by
  unfold lookedUp
  split_ifs with h <;> simp [h]

theorem reportMessage_lookedUp {netlinkMessage : ParsedMessage}
    {nl80211Interface : Nl80211Interface}
    (h : lookedUp (parsed netlinkMessage) = some nl80211Interface) :
    reportMessage order protocolState netlinkMessage =
      Nl80211Wiphy.fromIndex order (some protocolState) nl80211Interface.wiphyIndex >>=
        reportInterface netlinkMessage.cmd nl80211Interface := by
  obtain ⟨⟨hheader, hattributes, hcommand⟩, hparsed⟩ := lookedUp_eq_some.mp h
  simp only [parsed] at hheader hattributes hcommand hparsed
  unfold reportMessage
  rw [hheader, hattributes, if_pos hcommand, hparsed]
  rfl

theorem changesOf_lookedUp {message : NetlinkMessage} {nl80211Interface : Nl80211Interface}
    (h : lookedUp message = some nl80211Interface) (answers : Answers) :
    changesOf (message, answers) =
      if nl80211Interface.supportsAccessPointMode answers.fromIndex then
        [(if message.cmd = NL80211_CMD_NEW_INTERFACE then .Arrived else .Departed,
          makeAccessPoint nl80211Interface answers)]
      else [] := by
  obtain ⟨⟨hheader, hattributes, hcommand⟩, hparsed⟩ := lookedUp_eq_some.mp h
  simp [changesOf, hheader, hattributes, hcommand, hparsed]

-- A message that is not considered, or that no interface is parsed from.
theorem ignored_of_lookedUp {message : NetlinkMessage} (h : lookedUp message = none) :
    message.headerValid = false ∨ message.attributesValid = false ∨
      ¬ (message.cmd = NL80211_CMD_NEW_INTERFACE ∨ message.cmd = NL80211_CMD_DEL_INTERFACE) ∨
      message.nl80211Interface = none := by
  unfold lookedUp at h
  split_ifs at h with hconsidered
  · exact .inr (.inr (.inr h))
  · unfold Considered at hconsidered
    grind

theorem reportMessage_ignored {netlinkMessage : ParsedMessage}
    (h : lookedUp (parsed netlinkMessage) = none) :
    reportMessage order protocolState netlinkMessage = .Return () := by
  unfold reportMessage
  rcases ignored_of_lookedUp h with hheader | hattributes | hcommand | hparsed
  · rw [show netlinkMessage.headerValid = false from hheader]
    rfl
  · rw [show netlinkMessage.attributesValid = false from hattributes]
    simp
  · rw [if_neg (show ¬ (netlinkMessage.cmd = _ ∨ netlinkMessage.cmd = _) from hcommand)]
    simp
  · rw [show netlinkMessage.nl80211Interface = none from hparsed]
    simp

theorem changesOf_ignored {message : Handled} (h : lookedUp message.1 = none) :
    changesOf message = [] := by
  unfold changesOf
  rcases ignored_of_lookedUp h with hheader | hattributes | hcommand | hparsed
  · rw [hheader]
    rfl
  · rw [hattributes]
    simp
  · rw [if_neg hcommand]
    simp
  · rw [hparsed]
    simp

theorem serves_reportMessage {netlinkMessage : ParsedMessage} {trace : List Library.Exchange}
    (hruns : (reportMessage order protocolState netlinkMessage).Runs trace (.ok ())) :
    ∃ answers, Serves order protocolState trace (parsed netlinkMessage, answers) := by
  cases h : lookedUp (parsed netlinkMessage) with
  | none =>
      rw [reportMessage_ignored h] at hruns
      cases hruns
      exact ⟨⟨fun _ => none, 0, false⟩, .Ignored h⟩
  | some nl80211Interface =>
      rw [reportMessage_lookedUp h] at hruns
      rcases runs_bind hruns with ⟨lookup, made, wiphy, rfl, hlookup, hmade⟩ | ⟨_, ⟨⟩, _⟩
      have hserves (answers : Answers) (hanswers : answers.fromIndex = fun _ => wiphy) :
          Serves order protocolState (lookup ++ told (parsed netlinkMessage, answers))
            (parsed netlinkMessage, answers) :=
        .LookedUp h (by rwa [hanswers])
      simp only [told, changesOf_lookedUp h] at hserves
      unfold reportInterface at hmade
      by_cases hsupports : nl80211Interface.supportsAccessPointMode (fun _ => wiphy) = true
      · rw [if_pos hsupports] at hmade
        cases hmade with
        | Ask reply hrest =>
            cases hrest with
            | Ask _ hrest =>
                cases hrest
                have hnow := hserves ⟨fun _ => wiphy, Prod.fst reply, Prod.snd reply⟩ rfl
                rw [if_pos hsupports] at hnow
                exact ⟨_, hnow⟩
      · rw [if_neg hsupports] at hmade
        cases hmade
        have hnow := hserves ⟨fun _ => wiphy, 0, false⟩ rfl
        rw [if_neg hsupports] at hnow
        exact ⟨_, hnow⟩

theorem noexcept_reportInterface (cmd : UInt8) (nl80211Interface : Nl80211Interface)
    (wiphy : Option Nl80211Wiphy) : Noexcept (reportInterface cmd nl80211Interface wiphy) := by
  unfold reportInterface
  by_cases hsupports : nl80211Interface.supportsAccessPointMode (fun _ => wiphy) = true
  · rw [if_pos hsupports]
    exact noexcept_ask fun _ => noexcept_ask noexcept_return
  · rw [if_neg hsupports]
    exact noexcept_return ()

-- What is thrown is what the lookup throws.
theorem thrown_reportMessage {netlinkMessage : ParsedMessage} {trace : List Library.Exchange}
    {fault : NetlinkFault}
    (hruns : (reportMessage order protocolState netlinkMessage).Runs trace (.error fault)) :
    ∃ nl80211Interface, lookedUp (parsed netlinkMessage) = some nl80211Interface ∧
      (Nl80211Wiphy.fromIndex order (some protocolState) nl80211Interface.wiphyIndex).Runs trace
        (.error fault) := by
  cases h : lookedUp (parsed netlinkMessage) with
  | none =>
      rw [reportMessage_ignored h] at hruns
      cases hruns
  | some nl80211Interface =>
      rw [reportMessage_lookedUp h] at hruns
      rcases runs_bind hruns with ⟨_, now, wiphy, _, _, hmade⟩ | ⟨_, ⟨⟩, hthrown⟩
      · exact absurd hmade (noexcept_reportInterface _ nl80211Interface wiphy now fault)
      · exact ⟨nl80211Interface, rfl, hthrown⟩

-- The messages of a receipt are handled before anything else is received.
theorem served_reportMessages (socket : Pointer) {netlinkMessages : List ParsedMessage}
    {trace : List Library.Exchange} {outcome : Except NetlinkFault Unit}
    (hruns : (netlinkMessages.forM (reportMessage order protocolState)).Runs trace outcome) :
    ∃ handled rest, Served order protocolState socket (netlinkMessages.map parsed) trace handled
      rest outcome ∧ (outcome = .ok () → rest = []) := by
  induction netlinkMessages generalizing trace with
  | nil =>
      cases hruns
      exact ⟨[], [], .Done [], fun _ => rfl⟩
  | cons netlinkMessage netlinkMessages ih =>
      rcases runs_bind hruns with ⟨past, now, _, rfl, hpast, hnow⟩ | ⟨fault, rfl, hthrown⟩
      · obtain ⟨answers, hserves⟩ := serves_reportMessage hpast
        obtain ⟨handled, rest, hserved, hrest⟩ := ih hnow
        exact ⟨_, rest, .Serve hserves hserved, hrest⟩
      · obtain ⟨nl80211Interface, hlookedUp, hlookup⟩ := thrown_reportMessage hthrown
        have hclosing := List.forall_mem_nil (Silent socket)
        rw [← List.append_nil trace]
        exact ⟨[], _, .Thrown hlookedUp hlookup hclosing, nofun⟩

section Spec

variable {waiting rest : List NetlinkMessage} {trace segment : List Library.Exchange}
  {handled : List Handled} {message : Handled} {outcome : Except NetlinkFault Unit}

theorem receivedOn_append (socket : Pointer) (past now : List Library.Exchange) :
    receivedOn socket (past ++ now) = receivedOn socket past ++ receivedOn socket now :=
  List.flatMap_append

theorem reportedIn_append (past now : List Library.Exchange) :
    reportedIn (past ++ now) = reportedIn past ++ reportedIn now :=
  List.filterMap_append

theorem receivedOn_silent {socket : Pointer} (h : ∀ exchange ∈ trace, Silent socket exchange) :
    receivedOn socket trace = [] :=
  List.flatMap_eq_nil_iff.mpr fun exchange hmem => (h exchange hmem).1

theorem reportedIn_silent {socket : Pointer} (h : ∀ exchange ∈ trace, Silent socket exchange) :
    reportedIn trace = [] :=
  List.filterMap_eq_nil_iff.mpr fun exchange hmem => (h exchange hmem).2

theorem receivedOn_told (socket : Pointer) (message : Handled) :
    receivedOn socket (told message) = [] := by
  rw [receivedOn, told, List.flatMap_assoc]
  exact List.flatMap_eq_nil_iff.mpr fun _ _ => rfl

theorem reportedIn_told (message : Handled) : reportedIn (told message) = changesOf message := by
  rw [reportedIn, told, List.filterMap_flatMap]
  exact List.flatMap_singleton' (changesOf message)

theorem receivedOn_serves (hserves : Serves order protocolState segment message)
    (hdistinct : ∀ exchange ∈ segment, Distinct address exchange) :
    receivedOn (some address) segment = [] := by
  cases hserves with
  | Ignored => rfl
  | LookedUp _ hlookup =>
      have hsilent := quiet_fromIndex _ _ _ hlookup (List.forall_mem_append.mp hdistinct).1
      rw [receivedOn_append, receivedOn_silent hsilent, receivedOn_told]
      rfl

theorem reportedIn_serves (hserves : Serves order protocolState segment message)
    (hdistinct : ∀ exchange ∈ segment, Distinct address exchange) :
    reportedIn segment = changesOf message := by
  cases hserves with
  | Ignored hignored => exact (changesOf_ignored hignored).symm
  | LookedUp _ hlookup =>
      have hsilent := quiet_fromIndex _ _ _ hlookup (List.forall_mem_append.mp hdistinct).1
      rw [reportedIn_append, reportedIn_silent hsilent, reportedIn_told]
      rfl

-- No message is lost on the way, and none comes from elsewhere.
theorem receivedOn_served
    (hserved : Served order protocolState (some address) waiting trace handled rest outcome)
    (hdistinct : ∀ exchange ∈ trace, Distinct address exchange) :
    handled.map Prod.fst ++ rest = waiting ++ receivedOn (some address) trace := by
  induction hserved with
  | Done waiting => exact (List.append_nil waiting).symm
  | Thrown _ hlookup hclosing =>
      have hsilent := quiet_fromIndex _ _ _ hlookup (List.forall_mem_append.mp hdistinct).1
      rw [receivedOn_append, receivedOn_silent hsilent, receivedOn_silent hclosing]
      exact (List.append_nil _).symm
  | Pass _ _ ih =>
      rw [ih (List.forall_mem_cons.mp hdistinct).2, List.append_assoc]
      rfl
  | Serve hserves _ ih =>
      obtain ⟨hsegment, hrest⟩ := List.forall_mem_append.mp hdistinct
      rw [receivedOn_append, receivedOn_serves hserves hsegment, List.nil_append, List.map_cons,
        List.cons_append, ih hrest]
      rfl

theorem reportedIn_served
    (hserved : Served order protocolState (some address) waiting trace handled rest outcome)
    (hdistinct : ∀ exchange ∈ trace, Distinct address exchange) :
    reportedIn trace = handled.flatMap changesOf := by
  induction hserved with
  | Done waiting => rfl
  | Thrown _ hlookup hclosing =>
      have hsilent := quiet_fromIndex _ _ _ hlookup (List.forall_mem_append.mp hdistinct).1
      rw [reportedIn_append, reportedIn_silent hsilent, reportedIn_silent hclosing]
      rfl
  | Pass hexchange _ ih =>
      rw [reportedIn, List.filterMap_cons_none hexchange, ← reportedIn]
      exact ih (List.forall_mem_cons.mp hdistinct).2
  | Serve hserves _ ih =>
      obtain ⟨hsegment, hrest⟩ := List.forall_mem_append.mp hdistinct
      rw [reportedIn_append, reportedIn_serves hserves hsegment, ih hrest, List.flatMap_cons]

end Spec

end Message

section Thread

variable {order} {protocolState} {address : Nat} {α : Type}

-- What is received is handled before the thread goes on.
theorem accounted_received {next : Received → NetlinkAction α}
    (hnext : ∀ receipt, (serving order protocolState address).Accounted (next receipt)) :
    (serving order protocolState address).Accounted
      (call (.NlRecvmsgsDefault (some address)) >>= fun receipt =>
        (Received.messages receipt).forM (reportMessage order protocolState) >>= fun _ =>
          next receipt) := by
  intro trace outcome hruns hcredible
  cases hruns with
  | @Ask _ _ receipt trace _ hrest =>
      have hmessages {past : List Library.Exchange} {ended : Except NetlinkFault Unit}
          (hpast : ((Received.messages receipt).forM (reportMessage order protocolState)).Runs past
            ended) :
          (serving order protocolState address).accounts
            (⟨.NlRecvmsgsDefault (some address), receipt⟩ :: past) ended := by
        obtain ⟨handled, rest, hserved, hrest⟩ := served_reportMessages (some address) hpast
        refine ⟨handled, rest, .Pass rfl ?_, hrest⟩
        rwa [List.nil_append, received, if_pos rfl]
      have hcredible' := (List.forall_mem_cons.mp hcredible).2
      have hblock : Runs ((Received.messages receipt).forM (reportMessage order protocolState) >>=
        fun _ => next receipt) trace outcome := hrest
      rcases runs_bind hblock with ⟨past, now, _, rfl, hpast, hnow⟩ | ⟨fault, rfl, hthrown⟩
      · exact (serving order protocolState address).append (_ :: past) now _ (hmessages hpast)
          (hnext receipt now outcome hnow (credible_append.mp hcredible').2)
      · exact hmessages hthrown

theorem accounted_call {request : LibraryRequest} {next : request.Reply → NetlinkAction α}
    (hunheard : Unheard address request)
    (hnext : ∀ reply, (serving order protocolState address).Accounted (next reply)) :
    (serving order protocolState address).Accounted (call request >>= next) :=
  accounted_ask hunheard hnext

theorem accounted_handleNetlinkSocketReady (rounds : Nat) :
    (serving order protocolState address).Accounted
      (handleNetlinkSocketReady order protocolState ⟨some address⟩ rounds) := by
  induction rounds with
  | zero => exact accounted_return ()
  | succ rounds ih =>
      apply accounted_received
      intro received
      exact accounted_ite (fun _ => ih) fun _ => accounted_return ()

theorem accounted_handleReady (descriptors : Descriptors) (rounds : Nat) (stopRequested : Bool)
    (ready : List Int) :
    (serving order protocolState address).Accounted
      (handleReady order protocolState ⟨some address⟩ descriptors rounds stopRequested ready) := by
  induction ready generalizing stopRequested with
  | nil => exact accounted_return stopRequested
  | cons fd rest ih =>
      apply accounted_ite
      · exact fun _ => accounted_bind (accounted_handleNetlinkSocketReady rounds) fun _ => ih _
      · exact fun _ => ih _

theorem accounted_eventLoop (descriptors : Descriptors) (stopRequested : Bool) (rounds : Nat) :
    (serving order protocolState address).Accounted
      (eventLoop order protocolState ⟨some address⟩ descriptors stopRequested rounds) := by
  induction rounds generalizing stopRequested with
  | zero => exact accounted_return ()
  | succ rounds ih =>
      apply accounted_call fun _ => ⟨rfl, rfl⟩
      refine fun (requested : Bool) => accounted_ite (fun _ => accounted_return ()) fun _ => ?_
      apply accounted_call fun _ => ⟨rfl, rfl⟩
      intro (ready : Except Int (List Int))
      cases ready with
      | error errno => exact accounted_ite (fun _ => ih _) fun _ => accounted_return ()
      | ok ready =>
          exact accounted_bind (accounted_handleReady descriptors rounds stopRequested ready)
            fun stopRequested => ih stopRequested

theorem accounted_unless_failed {ret : Int} {next : NetlinkAction Unit}
    (hnext : (serving order protocolState address).Accounted next) :
    (serving order protocolState address).Accounted
      (if ret < 0 then (.Return () : NetlinkAction Unit) else next) :=
  accounted_ite (fun _ => accounted_return ()) fun _ => hnext

theorem accounted_opened {fd : Int} {block : NetlinkAction Unit}
    (hblock : (serving order protocolState address).Accounted block) :
    (serving order protocolState address).Accounted
      (if fd < 0 then (.Return () : NetlinkAction Unit) else
        Program.enclosed (close fd) block) :=
  accounted_unless_failed (accounted_enclosed (quiet_call fun _ => ⟨rfl, rfl⟩)
    (noexcept_ask noexcept_return) hblock)

theorem accounted_processNetlinkMessagesThread (rounds : Nat) :
    (serving order protocolState address).Accounted
      (processNetlinkMessagesThread order protocolState ⟨some address⟩ rounds) := by
  apply accounted_enclosed (quiet_of_within (unheard_destroySocket ⟨some address⟩))
    (noexcept_ask fun _ => noexcept_return ())
  apply accounted_call fun _ => ⟨rfl, rfl⟩
  intro _
  apply accounted_call fun _ => ⟨rfl, rfl⟩
  refine fun (ret : Int) => accounted_unless_failed ?_
  apply accounted_call fun _ => ⟨rfl, rfl⟩
  refine fun (ret : Int) => accounted_unless_failed ?_
  apply accounted_call fun _ => ⟨rfl, rfl⟩
  refine fun (netlinkSocketFileDescriptor : Int) => accounted_unless_failed ?_
  apply accounted_call fun _ => ⟨rfl, rfl⟩
  refine fun (fdEpoll : Int) => accounted_opened ?_
  apply accounted_call fun _ => ⟨rfl, rfl⟩
  refine fun (ret : Int) => accounted_unless_failed ?_
  apply accounted_call fun _ => ⟨rfl, rfl⟩
  refine fun (eventLoopStopFd : Int) => accounted_opened ?_
  apply accounted_call fun _ => ⟨rfl, rfl⟩
  exact fun (ret : Int) => accounted_unless_failed (accounted_eventLoop _ false rounds)

end Thread

section Manager

def reportTo (manager : AccessPointManager) (reported : List Change) : AccessPointManager :=
  reported.foldl (fun manager change => manager.onAccessPointPresenceChanged change.1 change.2)
    manager

theorem processNetlinkMessage_eq (manager : AccessPointManager) (message : Handled) :
    (processNetlinkMessage manager message.1 message.2).2 =
      reportTo manager (changesOf message) := by
  unfold processNetlinkMessage changesOf
  by_cases hheader : message.1.headerValid = true
  · by_cases hattributes : message.1.attributesValid = true
    · by_cases hcommand : message.1.cmd = NL80211_CMD_NEW_INTERFACE ∨
          message.1.cmd = NL80211_CMD_DEL_INTERFACE
      · rw [hheader, hattributes, if_pos hcommand, if_pos hcommand]
        cases message.1.nl80211Interface with
        | none => rfl
        | some nl80211Interface =>
            by_cases hsupports :
                nl80211Interface.supportsAccessPointMode message.2.fromIndex = true
            · simp [hsupports, reportTo]
            · simp [hsupports, reportTo]
      · simp [hheader, hattributes, hcommand, reportTo]
    · simp [hheader, hattributes, reportTo]
  · simp [hheader, reportTo]

theorem reportTo_append (manager : AccessPointManager) (first later : List Change) :
    reportTo manager (first ++ later) = reportTo (reportTo manager first) later :=
  List.foldl_append

theorem processNetlinkMessages_eq (manager : AccessPointManager) (handled : List Handled) :
    processNetlinkMessages manager handled = reportTo manager (handled.flatMap changesOf) := by
  induction handled generalizing manager with
  | nil => rfl
  | cons message rest ih =>
      rw [List.flatMap_cons, reportTo_append, ← processNetlinkMessage_eq]
      exact ih _

-- The socket of the thread is told of two interfaces and each other one of a wiphy. Once an
-- access point is reported, no more sockets are connected.
def arrivalAnswer (past : List Library.Exchange) : (request : LibraryRequest) → request.Reply
  | .NlRecvmsgsDefault socket =>
      if socket = some 7 then
        ⟨0, 0, [⟨true, true, NL80211_CMD_NEW_INTERFACE, some ⟨"wlan0", 0⟩, none⟩,
          ⟨true, true, NL80211_CMD_NEW_INTERFACE, some ⟨"wlan1", 1⟩, none⟩]⟩
      else ⟨0, 0, [⟨true, true, 3, none, some apWiphy⟩]⟩
  | .GenlConnect _ => if (reportedIn past).isEmpty then (0 : Int) else (-1 : Int)
  | .NlSocketGetFd _ => (3 : Int)
  | .EpollWait _ => .ok [3]
  | .StopRequested => past.any fun exchange => exchange.1 = .StopRequested
  | request => answering 100 past request

def arrivalRun : List Library.Exchange × Except NetlinkFault Unit :=
  (processNetlinkMessagesThread default {} ⟨some 7⟩ 2).run arrivalAnswer []

end Manager

end Reporting

end NetRemote.Wifi.AccessPointDiscoveryAgentOperationsNetlink
