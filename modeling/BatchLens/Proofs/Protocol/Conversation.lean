import Mathlib.Data.List.Basic
import BatchLens.Proofs.Protocol.Notification
import BatchLens.Protocol.Session

/-!
# Conversations

While a server works, an editor may send it whatever it likes in whatever order. Every request has
one reply, which depends on the notifications before it and on nothing else, and the first message
that ends the work decides how the session ends (`run_working`).

The proof looks at one message at a time. A message that does not end the work leaves the server as
the notifications before it have made it (`receiveWorking_of_goesOn`); a run over such messages
follows by induction (`run_of_goesOn`), and what is left is the message behind them.
-/

namespace BatchLens

/-! ## Messages -/

namespace Message

/-- Whether the server is asked to shut down. -/
def isShutdown : Message → Bool
  | request _ method _ => method == Session.shutdown
  | _ => false

/-- Whether the editor leaves. -/
def isExit : Message → Bool
  | notification method _ => method == Session.exit
  | _ => false

/-- Whether the server goes on to work after a message. -/
def goesOn (message : Message) : Bool := !message.isShutdown && !message.isExit

/-- What a message asks for a reply by, if it asks for one. -/
def requestId? : Message → Option Token
  | request id _ _ => some id
  | _ => none

/-- What a message tells, if it asks for nothing. -/
def told? : Message → Option Notification
  | notification method params => some ⟨method, params⟩
  | _ => none

/-- The messages up to the first one that ends the work, which is the last one to be heard. -/
def heard : List Message → List Message
  | [] => []
  | message :: others => if message.goesOn then message :: heard others else [message]

theorem isShutdown_or_isExit_of_not_goesOn {message : Message} (ends : message.goesOn = false) :
    message.isShutdown = true ∨ message.isExit = true := by
  cases asks : message.isShutdown with
  | true => exact .inl rfl
  | false => exact .inr (by simpa [goesOn, asks] using ends)

theorem exists_first_end (messages : List Message) :
    (∀ message ∈ messages, message.goesOn = true) ∨
      ∃ before last behind, messages = before ++ last :: behind ∧
        (∀ message ∈ before, message.goesOn = true) ∧ last.goesOn = false := by
  induction messages with
  | nil =>
      left
      simp
  | cons message others ih =>
      cases next : message.goesOn with
      | false => exact .inr ⟨[], message, others, rfl, by simp, next⟩
      | true =>
          rcases ih with allGoOn | ⟨before, last, behind, rfl, goOn, ends⟩
          · left
            simpa [next] using allGoOn
          · exact .inr ⟨message :: before, last, behind, rfl, by simpa [next] using goOn, ends⟩

theorem heard_of_goesOn {messages : List Message}
    (goOn : ∀ message ∈ messages, message.goesOn = true) : heard messages = messages := by
  induction messages with
  | nil => rfl
  | cons message others ih =>
      simp only [List.forall_mem_cons] at goOn
      simp [heard, goOn.1, ih goOn.2]

theorem heard_of_end {before : List Message} {last : Message} (behind : List Message)
    (goOn : ∀ message ∈ before, message.goesOn = true) (ends : last.goesOn = false) :
    heard (before ++ last :: behind) = before ++ [last] := by
  induction before with
  | nil => simp [heard, ends]
  | cons message others ih =>
      simp only [List.forall_mem_cons] at goOn
      simp [heard, goOn.1, ih goOn.2]

end Message

/-! ## What is expected of a server -/

namespace Server

/-- The server after the notifications among some messages. -/
def hearing (server : Server) (messages : List Message) : Server :=
  server.afterAll (messages.filterMap Message.told?)

/-- The reply of a server to a message, if it is a request. -/
def replyTo? (server : Server) : Message → Option Reply
  | .request id method params =>
      some ⟨id, if method = Session.shutdown then .ok .null
        else (server.respond method params).map Answer.toJson⟩
  | _ => none

/-- The replies to some messages, each given by the server that the notifications before it have
left. -/
def repliesTo (server : Server) (messages : List Message) : List Reply :=
  messages.zipIdx.filterMap fun (message, number) =>
    (server.hearing (messages.take number)).replyTo? message

@[simp]
theorem hearing_nil (server : Server) : server.hearing [] = server := rfl

theorem hearing_append (server : Server) (first second : List Message) :
    server.hearing (first ++ second) = (server.hearing first).hearing second := by
  simp [hearing, afterAll]

theorem repliesTo_append (server : Server) (first second : List Message) :
    server.repliesTo (first ++ second) =
      server.repliesTo first ++ (server.hearing first).repliesTo second := by
  simp only [repliesTo, List.zipIdx_append, List.filterMap_append]
  congr 1
  · -- Nothing behind a message has a part in its reply.
    apply List.filterMap_congr
    rintro ⟨message, number⟩ isNumbered
    have inFirst := List.snd_lt_of_mem_zipIdx isNumbered
    simp only at inFirst
    rw [List.take_append_of_le_length (Nat.le_of_lt inFirst)]
  · rw [Nat.zero_add, List.zipIdx_eq_map_add, List.filterMap_map]
    apply List.filterMap_congr
    rintro ⟨message, number⟩ _
    simp only [Function.comp_apply, List.take_length_add_append, hearing_append]

theorem repliesTo_singleton (server : Server) (message : Message) :
    server.repliesTo [message] = (server.replyTo? message).toList := by
  simp only [repliesTo, List.zipIdx_singleton, List.filterMap_cons, List.take_zero, hearing_nil,
    List.filterMap_nil]
  cases server.replyTo? message <;> rfl

/-- There is one reply to each request, and it carries the name of that request. -/
theorem map_id_repliesTo (server : Server) (messages : List Message) :
    (server.repliesTo messages).map Reply.id = messages.filterMap Message.requestId? := by
  have sameId (server : Server) (message : Message) :
      (server.replyTo? message).map Reply.id = message.requestId? := by
    cases message <;> rfl
  rw [repliesTo, List.map_filterMap]
  simp only [sameId]
  have unnumbered := congrArg (List.filterMap Message.requestId?) (List.zipIdx_map_fst 0 messages)
  rwa [List.filterMap_map] at unnumbered

end Server

/-! ## What a server does -/

namespace Session

variable {server : Server}

theorem receiveWorking_of_goesOn {message : Message} (goesOn : message.goesOn = true) :
    receiveWorking server message =
      (.working (server.hearing [message]), server.replyTo? message) := by
  cases message with
  | request id method params =>
      have works : method ≠ shutdown := by
        simpa [Message.goesOn, Message.isShutdown, Message.isExit] using goesOn
      simp only [receiveWorking, Server.replyTo?, if_neg works]
      rfl
  | notification method params =>
      have stays : method ≠ exit := by
        simpa [Message.goesOn, Message.isShutdown, Message.isExit] using goesOn
      simp only [receiveWorking, if_neg stays]
      rfl
  | response id => rfl

theorem run_of_goesOn {messages : List Message}
    (goOn : ∀ message ∈ messages, message.goesOn = true) :
    (working server).run messages =
      (.working (server.hearing messages), server.repliesTo messages) := by
  -- The others are received by the server that the first message has left.
  induction messages generalizing server with
  | nil => rfl
  | cons message others ih =>
      simp only [List.forall_mem_cons] at goOn
      have whole : message :: others = [message] ++ others := rfl
      simp only [run, receive, receiveWorking_of_goesOn goOn.1, ih goOn.2]
      rw [whole, Server.hearing_append, Server.repliesTo_append, Server.repliesTo_singleton]

/-- A session that has ended hears nothing more. -/
theorem run_ended (outcome : Except ServerError Unit) (messages : List Message) :
    (ended outcome).run messages = (.ended outcome, []) := by
  induction messages with
  | nil => rfl
  | cons message others ih => simp [run, receive, ih]

theorem receiveWorking_of_isExit {message : Message} (leaves : message.isExit = true) :
    receiveWorking server message = (.ended (.ok ()), server.replyTo? message) := by
  cases message with
  | notification method params =>
      have isExit : method = exit := by simpa [Message.isExit] using leaves
      simp only [receiveWorking, if_pos isExit]
      rfl
  | request id method params => simp [Message.isExit] at leaves
  | response id => simp [Message.isExit] at leaves

theorem receiveWorking_of_isShutdown {message : Message} (asks : message.isShutdown = true) :
    receiveWorking server message = (.leaving, server.replyTo? message) := by
  cases message with
  | request id method params =>
      have isShutdown : method = shutdown := by simpa [Message.isShutdown] using asks
      simp only [receiveWorking, Server.replyTo?, if_pos isShutdown]
  | notification method params => simp [Message.isShutdown] at asks
  | response id => simp [Message.isShutdown] at asks

/-- How a session ends that waits for the editor to leave. -/
def outcomeOfLeaving : List Message → Except ServerError Unit
  | [] => leaving.hangUp
  | next :: _ => (receiveLeaving next).1.hangUp

theorem run_leaving (messages : List Message) :
    (leaving.run messages).1.hangUp = outcomeOfLeaving messages ∧
      (leaving.run messages).2 = [] := by
  cases messages with
  | nil => exact ⟨rfl, rfl⟩
  | cons next others =>
      have ends : ∃ outcome, receiveLeaving next = (ended outcome, none) := by
        cases next with
        | notification method params =>
            simp only [receiveLeaving, unexpected]
            split <;> exact ⟨_, rfl⟩
        | request id method params => exact ⟨_, rfl⟩
        | response id => exact ⟨_, rfl⟩
      rcases ends with ⟨outcome, received⟩
      simp [run, receive, received, run_ended, outcomeOfLeaving]

theorem outcomeOfLeaving_eq_ok {next : Message} (leaves : next.isExit = true)
    (others : List Message) : outcomeOfLeaving (next :: others) = .ok () := by
  cases next with
  | notification method params =>
      have isExit : method = exit := by simpa [Message.isExit] using leaves
      simp [outcomeOfLeaving, receiveLeaving, isExit, hangUp]
  | request id method params => simp [Message.isExit] at leaves
  | response id => simp [Message.isExit] at leaves

theorem outcomeOfLeaving_eq_error {messages : List Message}
    (stays : ∀ next others, messages = next :: others → next.isExit = false) :
    ∃ text, outcomeOfLeaving messages = .error (.protocol text) := by
  cases messages with
  | nil => exact ⟨_, rfl⟩
  | cons next others =>
      have notExit := stays next others rfl
      cases next with
      | notification method params =>
          have differs : method ≠ exit := by simpa [Message.isExit] using notExit
          simp [outcomeOfLeaving, receiveLeaving, differs, unexpected, hangUp]
      | request id method params => exact ⟨_, rfl⟩
      | response id => exact ⟨_, rfl⟩

/-- A session ends well when its editor leaves, before or right after it asks to shut down. -/
def EndsWell (messages : List Message) : Prop :=
  ∃ before last behind, messages = before ++ last :: behind ∧
    (∀ message ∈ before, message.goesOn = true) ∧
    (last.isExit = true ∨
      last.isShutdown = true ∧ ∃ next others, behind = next :: others ∧ next.isExit = true)

/-- An editor breaks off that asks to shut down and does not leave right after. -/
def BreaksOff (messages : List Message) : Prop :=
  ∃ before last behind, messages = before ++ last :: behind ∧
    (∀ message ∈ before, message.goesOn = true) ∧ last.isShutdown = true ∧
    ∀ next others, behind = next :: others → next.isExit = false

section Outcome

variable {messages : List Message}

theorem run_of_end {before : List Message} {last : Message} (behind : List Message)
    (goOn : ∀ message ∈ before, message.goesOn = true) :
    (working server).run (before ++ last :: behind) =
      let (next, reply) := receiveWorking (server.hearing before) last
      ((next.run behind).1, server.repliesTo before ++ (reply.toList ++ (next.run behind).2)) := by
  rw [run_append, run_of_goesOn goOn]
  rfl

theorem hangUp_of_endsWell (endsWell : EndsWell messages) :
    ((working server).run messages).1.hangUp = .ok () := by
  rcases endsWell with ⟨before, last, behind, rfl, goOn, leaves | ⟨asks, next, others, rfl, leaves⟩⟩
  · simp [run_of_end behind goOn, receiveWorking_of_isExit leaves, run_ended, hangUp]
  · have outcome := (run_leaving (next :: others)).1
    rw [outcomeOfLeaving_eq_ok leaves] at outcome
    simp [run_of_end _ goOn, receiveWorking_of_isShutdown asks, outcome]

theorem hangUp_of_breaksOff (server : Server) (breaksOff : BreaksOff messages) :
    ∃ text, ((working server).run messages).1.hangUp = .error (.protocol text) := by
  rcases breaksOff with ⟨before, last, behind, rfl, goOn, asks, stays⟩
  rcases outcomeOfLeaving_eq_error stays with ⟨text, outcome⟩
  refine ⟨text, ?_⟩
  simp [run_of_end behind goOn, receiveWorking_of_isShutdown asks, (run_leaving behind).1, outcome]

theorem hangUp_of_goesOn (goOn : ∀ message ∈ messages, message.goesOn = true) :
    ((working server).run messages).1.hangUp = .error .disconnected := by
  simp [run_of_goesOn goOn, hangUp]

theorem endsWell_or_breaksOff_or_goesOn (messages : List Message) :
    EndsWell messages ∨ BreaksOff messages ∨ ∀ message ∈ messages, message.goesOn = true := by
  rcases Message.exists_first_end messages with goOn | ⟨before, last, behind, rfl, goOn, ends⟩
  · exact .inr (.inr goOn)
  · -- After an exit it does not matter what follows; after a shutdown the next message decides.
    rcases Message.isShutdown_or_isExit_of_not_goesOn ends with asks | leaves
    · by_cases leaves : ∃ next others, behind = next :: others ∧ next.isExit = true
      · exact .inl ⟨before, last, behind, rfl, goOn, .inr ⟨asks, leaves⟩⟩
      · right
        left
        refine ⟨before, last, behind, rfl, goOn, asks, ?_⟩
        intro next others isNext
        cases stays : next.isExit with
        | false => rfl
        | true => exact absurd ⟨next, others, isNext, stays⟩ leaves
    · exact .inl ⟨before, last, behind, rfl, goOn, .inl leaves⟩

end Outcome

theorem replies_run (messages : List Message) :
    ((working server).run messages).2 = server.repliesTo (Message.heard messages) := by
  rcases Message.exists_first_end messages with goOn | ⟨before, last, behind, rfl, goOn, ends⟩
  · rw [run_of_goesOn goOn, Message.heard_of_goesOn goOn]
  · rw [Message.heard_of_end behind goOn ends, Server.repliesTo_append,
      Server.repliesTo_singleton, run_of_end behind goOn]
    rcases Message.isShutdown_or_isExit_of_not_goesOn ends with asks | leaves
    · simp [receiveWorking_of_isShutdown asks, (run_leaving behind).2]
    · simp [receiveWorking_of_isExit leaves, run_ended]

/-- A message that tells nothing and does not end the work has no part in what follows. -/
theorem run_skip (server : Server) {before : List Message} {message : Message}
    (behind : List Message) (goOn : ∀ message ∈ before, message.goesOn = true)
    (tellsNothing : message.told? = none) (goesOn : message.goesOn = true) :
    let others := (working (server.hearing before)).run behind
    (working server).run (before ++ behind) = (others.1, server.repliesTo before ++ others.2) ∧
      (working server).run (before ++ message :: behind) =
        (others.1, server.repliesTo before ++
          (((server.hearing before).replyTo? message).toList ++ others.2)) := by
  intro others
  have nothing (server : Server) : server.hearing [message] = server := by
    simp [Server.hearing, Server.afterAll, tellsNothing]
  constructor
  · rw [run_append, run_of_goesOn goOn]
  · rw [run_of_end behind goOn, receiveWorking_of_goesOn goesOn, nothing]

/-- While a server works, it replies to every request that it hears, in their order and under their
names, and it hears everything up to the first message that asks it to shut down or says that the
editor leaves. Each reply is the one of the server that the notifications before the request have
left, so that a message which tells nothing could as well be missing. The session ends well if the
editor leaves, at once or right after it has asked the server to shut down; if something else
follows that request, or nothing, the protocol is broken; and if no message ends the work, the
editor has gone away. -/
theorem run_working (server : Server) (messages : List Message) :
    let conversation := (working server).run messages
    conversation.2 = server.repliesTo (Message.heard messages) ∧
      conversation.2.map Reply.id =
        (Message.heard messages).filterMap Message.requestId? ∧
      (conversation.1.hangUp = .ok () ↔ EndsWell messages) ∧
      ((∃ text, conversation.1.hangUp = .error (.protocol text)) ↔ BreaksOff messages) ∧
      (conversation.1.hangUp = .error .disconnected ↔
        ∀ message ∈ messages, message.goesOn = true) ∧
      ∀ before message behind, messages = before ++ message :: behind →
        (∀ earlier ∈ before, earlier.goesOn = true) → message.told? = none →
        message.goesOn = true →
        ∃ late,
          (working server).run (before ++ behind) =
              (conversation.1, server.repliesTo before ++ late) ∧
            conversation.2 = server.repliesTo before ++
              (((server.hearing before).replyTo? message).toList ++ late) := by
  intro conversation
  have replies : conversation.2 = server.repliesTo (Message.heard messages) :=
    replies_run messages
  refine ⟨replies, ?_, ?_, ?_, ?_, ?_⟩
  · rw [replies, Server.map_id_repliesTo]
  · constructor
    · intro isOk
      rcases endsWell_or_breaksOff_or_goesOn messages with endsWell | breaksOff | goOn
      · exact endsWell
      · rcases hangUp_of_breaksOff server breaksOff with ⟨text, outcome⟩
        simp [conversation, outcome] at isOk
      · simp [conversation, hangUp_of_goesOn goOn] at isOk
    · exact hangUp_of_endsWell
  · constructor
    · rintro ⟨text, isError⟩
      rcases endsWell_or_breaksOff_or_goesOn messages with endsWell | breaksOff | goOn
      · simp [conversation, hangUp_of_endsWell endsWell] at isError
      · exact breaksOff
      · simp [conversation, hangUp_of_goesOn goOn] at isError
    · exact hangUp_of_breaksOff server
  · constructor
    · intro isDisconnected
      rcases endsWell_or_breaksOff_or_goesOn messages with endsWell | breaksOff | goOn
      · simp [conversation, hangUp_of_endsWell endsWell] at isDisconnected
      · rcases hangUp_of_breaksOff server breaksOff with ⟨text, outcome⟩
        simp [conversation, outcome] at isDisconnected
      · exact goOn
    · exact hangUp_of_goesOn
  · rintro before message behind rfl goOn tellsNothing goesOn
    rcases run_skip server behind goOn tellsNothing goesOn with ⟨without, withIt⟩
    refine ⟨((working (server.hearing before)).run behind).2, ?_, ?_⟩
    · rw [without]
      simp only [conversation, withIt]
    · simp only [conversation, withIt]

/-- A request that cannot be read has a reply of its own, and the session ends well behind it. -/
theorem run_working_of_unreadable_hover :
    let server := Server.start {} ⟨fun _ => none, []⟩ .utf16
    let hover : Message := .request (.number 1) "textDocument/hover".toList .null
    let rest : List Message :=
      [.request (.number 2) shutdown .null, .notification exit .null, .response (.number 3)]
    let conversation := (working server).run (hover :: rest)
    conversation.2.map Reply.id = [.number 1, .number 2] ∧
      conversation.1.hangUp = .ok () ∧
      ∃ late, (working server).run rest = (conversation.1, late) ∧
        conversation.2 = ⟨.number 1, .error .invalidParams⟩ :: late := by
  intro server hover rest conversation
  rcases run_working server (hover :: rest) with ⟨_, names, endsWell_iff, _, _, skipped⟩
  have goesOn : hover.goesOn = true := by decide
  have endsWell : EndsWell (hover :: rest) :=
    ⟨[hover], .request (.number 2) shutdown .null, _, rfl, by simpa using goesOn,
      .inr ⟨by decide, _, _, rfl, by decide⟩⟩
  have isRefused : server.replyTo? hover = some ⟨.number 1, .error .invalidParams⟩ := by
    have notShutdown : "textDocument/hover".toList ≠ shutdown := by decide
    have unreadable : Query.ofRequest "textDocument/hover".toList .null =
        .error .invalidParams := by
      decide
    simp only [hover, Server.replyTo?, if_neg notShutdown, Server.respond, unreadable]
    rfl
  rcases skipped [] hover rest rfl (by simp) rfl goesOn with ⟨late, without, whole⟩
  rw [Server.hearing_nil, isRefused] at whole
  exact ⟨names, endsWell_iff.mpr endsWell, late, without, whole⟩

end Session

end BatchLens
