import WatchDogProcess.Foundation.EventRun
import WatchDogProcess.Service.CommandServer

/-! # What becomes of the commands sent to a Unix service

A line is answered once, in its turn, or it still stands in the text kept for its address:
whatever the pieces are and whoever else sends, none is lost, doubled or overtaken
(`WatchDog.commands_conserved`). Only an empty line holds later ones back.

A code that a controller sends over a connection whose address has no text kept is given
to the service as that code, once (`WatchDog.sendCommand_round_trip`). A connection is
answered as if it were the first with its address exactly when nothing was kept
(`WatchDog.fresh_connection_iff`).
-/

namespace WatchDog

open DelimitedStream EventRun

/-! ### Lines -/

/-- The lines of a text that are not empty. -/
def commandLines (text : List Char) : List (List Char) :=
  (split lineEnd text).1.filter (· ≠ [])

/-- What follows the last line. -/
def unfinished (text : List Char) : List Char := (split lineEnd text).2

theorem commandLines_append (text more : List Char) :
    commandLines (text ++ more) = commandLines text ++ commandLines (unfinished text ++ more) := by
  simp only [commandLines, unfinished, split_append text more, List.filter_append]

theorem unfinished_append (text more : List Char) :
    unfinished (text ++ more) = unfinished (unfinished text ++ more) := by
  simp only [unfinished, split_append text more]

/-- `getCommand` takes out the first line, if there is one. -/
theorem getCommand_conserved (cache : List Char) :
    let taken := getCommand cache
    commandLines cache = [taken.1].filter (· ≠ []) ++ commandLines taken.2 ∧
      unfinished cache = unfinished taken.2 := by
  unfold getCommand
  cases found : cut lineEnd cache with
  | none => exact ⟨rfl, rfl⟩
  | some pair =>
      obtain ⟨line, rest⟩ := pair
      simp only [commandLines, unfinished, split_of_some found]
      exact ⟨List.filter_append [line] _, trivial⟩

variable {Address : Type*} (spaces : Whitespace) (malformed : List UInt8 → List Char)

/-- The loop answers the first lines of its text and keeps the others. -/
theorem answers_conserved (flags : ServiceFlags) (sender : Address) (cache : List Char) :
    let result := answers spaces flags sender cache
    commandLines cache = result.1.map Answer.command ++ commandLines result.2 ∧
      unfinished cache = unfinished result.2 := by
  fun_induction answers spaces flags sender cache with
  | case1 cache taken empty =>
      have conserved := getCommand_conserved cache
      simp only [taken] at empty
      simpa only [taken, empty, ne_eq, not_true_eq_false, decide_false, Bool.false_eq_true,
        not_false_eq_true, List.filter_cons_of_neg, List.filter_nil, List.map_nil] using conserved
  | case2 cache taken command rest ih =>
      obtain ⟨lines, tail⟩ := getCommand_conserved cache
      have kept : [taken.1].filter (· ≠ []) = [taken.1] := by
        simp only [ne_eq, command, not_false_eq_true, decide_true, List.filter_cons_of_pos,
          List.filter_nil]
      refine ⟨?_, tail.trans ih.2⟩
      rw [lines, kept, ih.1, List.map_cons, answer_command]
      rfl

/-- Without an empty line nothing is kept but what follows the last line. -/
theorem answers_rest (flags : ServiceFlags) (sender : Address) {cache : List Char}
    (noEmpty : [] ∉ (split lineEnd cache).1) :
    (answers spaces flags sender cache).2 = unfinished cache := by
  fun_induction answers spaces flags sender cache with
  | case1 cache taken empty =>
      cases found : cut lineEnd cache with
      | none => simp only [taken, getCommand, found, unfinished, split_of_none found]
      | some pair =>
          simp only [taken, getCommand, found] at empty
          rw [split_of_some found, empty] at noEmpty
          exact absurd List.mem_cons_self noEmpty
  | case2 cache taken command rest ih =>
      cases found : cut lineEnd cache with
      | none =>
          simp only [taken, getCommand, found, not_true_eq_false] at command
      | some pair =>
          rw [split_of_some found, List.mem_cons, not_or] at noEmpty
          have later := ih (by simpa only [taken, getCommand, found] using noEmpty.2)
          rw [later]
          simp only [unfinished, taken, getCommand, found, split_of_some found]

/-- Each answer is the one that the flags give for its command. -/
theorem answers_answer (flags : ServiceFlags) (sender : Address) (cache : List Char) :
    ∀ given ∈ (answers spaces flags sender cache).1,
      given = answer spaces flags sender given.command := by
  fun_induction answers spaces flags sender cache with
  | case1 cache taken empty => exact fun given member => absurd member List.not_mem_nil
  | case2 cache taken command rest ih =>
      intro given member
      rcases List.mem_cons.mp member with rfl | later
      · rw [answer_command]
      · exact ih given later

/-- A text that begins with a line that is not empty is answered. -/
theorem answers_ne_nil {text line rest : List Char} (found : cut lineEnd text = some (line, rest))
    (command : line ≠ []) (flags : ServiceFlags) (sender : Address) :
    (answers spaces flags sender text).1 ≠ [] := by
  rw [answers]
  simp only [getCommand, found, command, ↓reduceDIte]
  exact List.cons_ne_nil _ _

/-- A text that begins with an empty line is not answered at once. -/
theorem answers_eq_nil {text rest : List Char} (found : cut lineEnd text = some ([], rest))
    (flags : ServiceFlags) (sender : Address) : (answers spaces flags sender text).1 = [] := by
  rw [answers]
  simp only [getCommand, found, ↓reduceDIte]

/-- Text that is kept shows in the answers to what comes next. -/
theorem kept_shows (flags : ServiceFlags) (sender : Address)
    {kept : List Char} (nonempty : kept ≠ []) :
    ∃ piece : List UInt8,
      (answers spaces flags sender (kept ++ QString.fromUtf8 malformed piece)).1 ≠
        (answers spaces flags sender (QString.fromUtf8 malformed piece)).1 := by
  have lineEndRead : QString.fromUtf8 malformed [13, 10] = lineEnd.symbols :=
    QString.fromUtf8_ascii malformed (by simp)
  cases found : cut lineEnd (kept ++ lineEnd.symbols) with
  | none =>
      have ended := @cut_ne_none Char _ lineEnd kept []
      rw [List.append_nil] at ended
      exact absurd found ended
  | some pair =>
      obtain ⟨line, rest⟩ := pair
      by_cases empty : line = []
      · -- an empty line is kept, and holds back whatever follows
        subst empty
        obtain ⟨later, rfl⟩ : ∃ later, kept = lineEnd.symbols ++ later := by
          have whole := cut_eq found
          simp only [lineEnd, Delimiter.symbols, List.nil_append, List.cons_append] at whole ⊢
          cases kept with
          | nil => exact absurd rfl nonempty
          | cons first kept =>
              cases kept with
              | nil => simp at whole
              | cons second kept =>
                  simp only [List.cons_append, List.cons.injEq] at whole
                  exact ⟨kept, by rw [whole.1, whole.2.1]⟩
        have plain : ∀ character ∈ "alive".toList, IsPlain character := by simp [IsPlain]
        have alive : QString.fromUtf8 malformed (sendCmdBytes "alive".toList) =
            "alive".toList ++ lineEnd.symbols ++ [] := by
          rw [QString.fromUtf8_ascii malformed (sendCmdBytes_plain plain).1,
            (sendCmdBytes_plain plain).2,
            List.append_nil]
          rfl
        refine ⟨sendCmdBytes "alive".toList, ?_⟩
        have held : cut lineEnd (lineEnd.symbols ++ later ++
            QString.fromUtf8 malformed (sendCmdBytes "alive".toList)) = some ([], _) :=
          cut_append (cut_line (List.not_mem_nil) later) _
        rw [answers_eq_nil spaces held]
        have first : cut lineEnd (QString.fromUtf8 malformed (sendCmdBytes "alive".toList)) =
            some ("alive".toList, []) := by
          rw [alive]
          exact cut_line (by decide) []
        exact (answers_ne_nil spaces first (by decide) flags sender).symm
      · refine ⟨[13, 10], ?_⟩
        have nothing : cut lineEnd lineEnd.symbols = some ([], []) := by decide
        rw [lineEndRead, answers_eq_nil spaces nothing]
        exact answers_ne_nil spaces found empty flags sender

/-! ### Runs -/

namespace CommandServer

variable [DecidableEq Address]

/-- The bytes that arrive over the connections with an address. -/
def bytesOf (address : Address) (events : List (ServerEvent Address)) : List (List UInt8) :=
  events.filterMap fun event => match event with
    | .slotReady sender piece => if sender = address then some piece else none
    | _ => none

/-- The text that the server reads from them. -/
def received (address : Address) (events : List (ServerEvent Address)) : List Char :=
  (bytesOf address events).flatMap (QString.fromUtf8 malformed)

/-- The answers to the connections with an address. -/
def answersTo (server : CommandServer Address) (address : Address) : List (Answer Address) :=
  server.answered.filter fun given => given.sender = address

/-- After some text from an address, each of its lines has been answered, behind the
commands answered before, or stands in the text that is kept, in order. -/
structure Keeps (server : CommandServer Address) (address : Address)
    (before : List (List Char)) (text : List Char) : Prop where
  lines : before ++ commandLines text =
    (server.answersTo address).map Answer.command ++ commandLines (server.cache address)
  tail : unfinished text = unfinished (server.cache address)
  rest : [] ∉ (split lineEnd text).1 → server.cache address = unfinished text

variable {spaces malformed} {server : CommandServer Address} {address : Address}
  {before : List (List Char)} {text : List Char}

theorem received_cons (event : ServerEvent Address) (events : List (ServerEvent Address)) :
    received malformed address (event :: events) =
      received malformed address [event] ++ received malformed address events := by
  rw [received, received, received, ← List.flatMap_append, bytesOf, bytesOf, bytesOf,
    ← List.filterMap_append, List.singleton_append]

theorem received_slotReady_self (piece : List UInt8) :
    received malformed address [.slotReady address piece] = QString.fromUtf8 malformed piece := by
  simp [received, bytesOf]

theorem received_slotReady_ne {sender : Address} (other : sender ≠ address)
    (piece : List UInt8) : received malformed address [.slotReady sender piece] = [] := by
  simp [received, bytesOf, other]

theorem answersTo_slotReady (sender : Address) (piece : List UInt8) :
    (server.handle spaces malformed (.slotReady sender piece)).answersTo address =
      server.answersTo address ++ if sender = address then
        (answers spaces server.serviceFlags sender
          (server.cache sender ++ QString.fromUtf8 malformed piece)).1 else [] := by
  have senders : ∀ given ∈ (answers spaces server.serviceFlags sender
      (server.cache sender ++ QString.fromUtf8 malformed piece)).1, given.sender = sender := by
    intro given member
    rw [answers_answer spaces _ _ _ given member, answer_sender]
  simp only [answersTo, handle, List.filter_append]
  congr 1
  split
  · rename_i same
    rw [List.filter_eq_self]
    intro given member
    simp only [senders given member, same, decide_true]
  · rename_i other
    rw [List.filter_eq_nil_iff]
    intro given member
    simp only [senders given member, other, decide_false, Bool.false_eq_true, not_false_eq_true]

/-- The account of an address is one of its text and its answers. -/
theorem Keeps.congr {other : CommandServer Address} (keeps : server.Keeps address before text)
    (cached : other.cache address = server.cache address)
    (answered : other.answersTo address = server.answersTo address) :
    other.Keeps address before text := by
  refine ⟨?_, ?_, ?_⟩
  · rw [cached, answered]
    exact keeps.lines
  · rw [cached]
    exact keeps.tail
  · rw [cached]
    exact keeps.rest

/-- The server keeps its account of an address when it reads from a connection with it. -/
theorem Keeps.slotReady (keeps : server.Keeps address before text) (piece : List UInt8) :
    (server.handle spaces malformed (.slotReady address piece)).Keeps address before
      (text ++ QString.fromUtf8 malformed piece) := by
  obtain ⟨lines, tail⟩ := answers_conserved spaces server.serviceFlags address
    (server.cache address ++ QString.fromUtf8 malformed piece)
  have cached : (server.handle spaces malformed (.slotReady address piece)).cache address =
      (answers spaces server.serviceFlags address
        (server.cache address ++ QString.fromUtf8 malformed piece)).2 := Function.update_self ..
  refine ⟨?_, ?_, fun noEmpty => ?_⟩
  · rw [answersTo_slotReady, if_pos rfl, cached, commandLines_append, ← List.append_assoc,
      keeps.lines, keeps.tail, List.append_assoc, ← commandLines_append, lines, List.map_append,
      List.append_assoc]
  · rw [cached, unfinished_append, keeps.tail, ← unfinished_append, tail]
  · rw [split_append, List.mem_append, not_or] at noEmpty
    have before := keeps.rest noEmpty.1
    have later :
        [] ∉ (split lineEnd (server.cache address ++ QString.fromUtf8 malformed piece)).1 := by
      rw [before]
      exact noEmpty.2
    rw [cached, answers_rest spaces server.serviceFlags address later, before,
      ← unfinished_append]

theorem Keeps.event (keeps : server.Keeps address before text) {event : ServerEvent Address}
    (enabled : server.Enabled event) :
    (server.step spaces malformed event).Keeps address before
      (text ++ received malformed address [event]) := by
  rw [step_of_enabled spaces malformed enabled]
  cases event with
  | slotReady sender piece =>
      by_cases same : sender = address
      · subst same
        rw [received_slotReady_self]
        exact keeps.slotReady piece
      · rw [received_slotReady_ne same, List.append_nil]
        refine keeps.congr (Function.update_of_ne (Ne.symm same) ..) ?_
        rw [answersTo_slotReady, if_neg same, List.append_nil]
  | incomingConnection other =>
      rw [show received malformed address [.incomingConnection other] = [] from rfl,
        List.append_nil]
      exact keeps.congr rfl rfl
  | slotClosed other =>
      rw [show received malformed address [.slotClosed other] = [] from rfl, List.append_nil]
      exact keeps.congr rfl rfl
  | setServiceFlags flags =>
      rw [show received malformed address [.setServiceFlags flags] = [] from rfl, List.append_nil]
      exact keeps.congr rfl rfl

theorem Keeps.run (keeps : server.Keeps address before text) {events : List (ServerEvent Address)}
    (enabled : Always (step spaces malformed) Enabled server events) :
    (EventRun.run (CommandServer.step spaces malformed) server events).Keeps address before
      (text ++ received malformed address events) := by
  induction events generalizing server text with
  | nil => simpa [received, bytesOf] using keeps
  | cons event events ih =>
      rw [run_cons, received_cons, ← List.append_assoc]
      exact ih (keeps.event enabled.1) enabled.2

/-- What a run adds to the answers to an address are answers under flags that the server
had. -/
theorem answersTo_run (events : List (ServerEvent Address)) :
    ∃ later, (EventRun.run (CommandServer.step spaces malformed) server events).answersTo address =
        server.answersTo address ++ later ∧
      ∀ given ∈ later, ∃ flags, given = answer spaces flags address given.command := by
  induction events generalizing server with
  | nil => exact ⟨[], (List.append_nil _).symm, fun given member => absurd member List.not_mem_nil⟩
  | cons event events ih =>
      obtain ⟨later, grows, each⟩ := @ih (server.step spaces malformed event)
      rw [run_cons]
      unfold step at grows ⊢
      split at grows
      · rename_i quitting
        rw [if_pos quitting]
        exact ⟨later, grows, each⟩
      rename_i running
      rw [if_neg running]
      cases event with
      | slotReady sender piece =>
          rw [answersTo_slotReady, List.append_assoc] at grows
          refine ⟨_, grows, ?_⟩
          intro given member
          rcases List.mem_append.mp member with now | after
          · split at now
            · rename_i same
              subst same
              exact ⟨server.serviceFlags, answers_answer spaces _ _ _ given now⟩
            · exact absurd now List.not_mem_nil
          · exact each given after
      | incomingConnection other => exact ⟨later, grows, each⟩
      | slotClosed other => exact ⟨later, grows, each⟩
      | setServiceFlags flags => exact ⟨later, grows, each⟩

end CommandServer

/-! ### One command -/

namespace CommandServer

variable [DecidableEq Address] {server : CommandServer Address} {address : Address}
  {events : List (ServerEvent Address)} {cmd : List Char} {spaces} {malformed}

/-- However the bytes of a plain command are cut, its line is read. -/
theorem received_sendCmd (plain : ∀ character ∈ cmd, IsPlain character)
    (sent : (bytesOf address events).flatten = sendCmdBytes cmd) :
    received malformed address events = cmd ++ ['\r', '\n'] := by
  obtain ⟨ascii, reads⟩ := sendCmdBytes_plain plain
  rw [← reads, ← sent, received, List.flatMap_def, List.map_flatten]
  congr 1
  refine List.map_congr_left fun piece member =>
    QString.fromUtf8_ascii malformed fun byte inPiece => ?_
  apply ascii
  rw [← sent]
  exact List.mem_flatten.mpr ⟨piece, member, inPiece⟩

/-- A plain command sent over a connection whose address has no text kept is answered once,
and nothing is left of it. -/
theorem answered_once (plain : ∀ character ∈ cmd, IsPlain character) (nonempty : cmd ≠ [])
    (fresh : server.cache address = [])
    (enabled : Always (step spaces malformed) Enabled server events)
    (sent : (bytesOf address events).flatten = sendCmdBytes cmd) :
    let after := EventRun.run (step spaces malformed) server events
    (∃ flags, after.answersTo address =
        server.answersTo address ++ [answer spaces flags address cmd]) ∧
      after.cache address = [] := by
  intro after
  have start : server.Keeps address ((server.answersTo address).map Answer.command) [] := by
    refine ⟨by rw [fresh], by rw [fresh], fun _ => ?_⟩
    rw [fresh, unfinished, split_nil]
  have kept : after.Keeps address ((server.answersTo address).map Answer.command)
      ([] ++ received malformed address events) := start.run enabled
  have noReturn : '\r' ∉ cmd := fun inCmd => (plain '\r' inCmd).2.2 rfl
  have oneLine : split lineEnd (cmd ++ ['\r', '\n']) = ([cmd], []) := by
    have read := @split_line Char _ lineEnd cmd noReturn []
    rwa [List.append_nil, split_nil] at read
  rw [List.nil_append, received_sendCmd plain sent] at kept
  have empty : after.cache address = [] := by
    have rest := kept.rest
    rw [unfinished, oneLine, List.mem_singleton] at rest
    exact rest (Ne.symm nonempty)
  have lines := kept.lines
  have oneCommand : commandLines (cmd ++ ['\r', '\n']) = [cmd] := by
    simp only [commandLines, oneLine, ne_eq, nonempty, not_false_eq_true, decide_true,
      List.filter_cons_of_pos, List.filter_nil]
  have none : commandLines [] = [] := by
    rw [commandLines, split_nil]
    rfl
  obtain ⟨later, grows, each⟩ : ∃ later, after.answersTo address =
      server.answersTo address ++ later ∧
        ∀ given ∈ later, ∃ flags, given = answer spaces flags address given.command :=
    answersTo_run events
  rw [oneCommand, empty, none, grows, List.map_append, List.append_nil,
    List.append_cancel_left_eq] at lines
  obtain ⟨given, rfl, isCommand⟩ := List.map_eq_singleton_iff.mp lines.symm
  obtain ⟨flags, same⟩ := each given List.mem_cons_self
  exact ⟨⟨flags, by rw [grows, same, isCommand]⟩, empty⟩

/-! ### A connection after others -/

/-- The server without what it keeps for an address. -/
def forget (server : CommandServer Address) (address : Address) : CommandServer Address :=
  { server with cache := Function.update server.cache address [] }

/-- What the server answers at once to a piece over a new connection. -/
theorem answersTo_connected (running : server.quitting = false) (piece : List UInt8) :
    (EventRun.run (step spaces malformed) server
        [.incomingConnection address, .slotReady address piece]).answersTo address =
      server.answersTo address ++ (answers spaces server.serviceFlags address
        (server.cache address ++ QString.fromUtf8 malformed piece)).1 := by
  have connected : server.step spaces malformed (.incomingConnection address) =
      { server with sockets := address :: server.sockets } :=
    if_neg (ne_true_of_eq_false running)
  rw [run_cons, run_cons, run_nil, connected, step, if_neg (ne_true_of_eq_false running),
    answersTo_slotReady, if_pos rfl]
  rfl

theorem answersTo_forget_connected (running : server.quitting = false) (piece : List UInt8) :
    (EventRun.run (step spaces malformed) (server.forget address)
        [.incomingConnection address, .slotReady address piece]).answersTo address =
      server.answersTo address ++ (answers spaces server.serviceFlags address
        (QString.fromUtf8 malformed piece)).1 := by
  rw [answersTo_connected (by exact running)]
  simp only [forget, Function.update_self, List.nil_append]
  rfl

end CommandServer

/-! ### The results -/

section Results

variable [DecidableEq Address] (flags : ServiceFlags) (events : List (ServerEvent Address))
  (address : Address)

/-- A new server keeps its account of every address. -/
theorem CommandServer.keeps_run
    (enabled : Always (CommandServer.step spaces malformed) CommandServer.Enabled (.start flags)
      events) :
    (run (CommandServer.step spaces malformed) (.start flags) events).Keeps address []
      (CommandServer.received malformed address events) := by
  have start : (CommandServer.start flags : CommandServer Address).Keeps address [] [] := by
    refine ⟨rfl, rfl, fun _ => ?_⟩
    rw [unfinished, split_nil]
    rfl
  exact start.run enabled

/-- **No command is lost, doubled or overtaken.** In every run of the server, whatever
connections come, send pieces of any size and are closed in whatever order, until it is told
to quit, the lines of the text read over the connections with an address are, in order,
those answered and those that stand in the text kept for the address; and if none of them is
empty, all are answered and only what follows the last one is kept. -/
theorem commands_conserved (spaces : Whitespace) (malformed : List UInt8 → List Char)
    (flags : ServiceFlags) (events : List (ServerEvent Address))
    (enabled : Always (CommandServer.step spaces malformed) CommandServer.Enabled (.start flags)
      events) (address : Address) :
    let server := run (CommandServer.step spaces malformed) (.start flags) events
    let text := CommandServer.received malformed address events
    commandLines text = (server.answersTo address).map Answer.command ++
        commandLines (server.cache address) ∧
      unfinished text = unfinished (server.cache address) ∧
      ([] ∉ (split lineEnd text).1 → server.cache address = unfinished text ∧
        (server.answersTo address).map Answer.command = (split lineEnd text).1) := by
  intro server text
  have keeps : server.Keeps address [] text :=
    CommandServer.keeps_run spaces malformed flags events address enabled
  refine ⟨keeps.lines, keeps.tail, fun noEmpty => ⟨keeps.rest noEmpty, ?_⟩⟩
  have none : commandLines (unfinished text) = [] := by
    have again := commandLines_append text []
    rw [List.append_nil, List.append_nil] at again
    exact List.append_right_eq_self.mp again.symm
  have all : commandLines text = (split lineEnd text).1 := by
    rw [commandLines, List.filter_eq_self]
    intro line member
    have nonempty : line ≠ [] := fun same => noEmpty (same ▸ member)
    simp only [ne_eq, nonempty, not_false_eq_true, decide_true]
  have lines := keeps.lines
  rw [List.nil_append, keeps.rest noEmpty, none, List.append_nil, all] at lines
  exact lines.symm

/-- Bytes that are not UTF-8 read as one replacement character. -/
def replaced : List UInt8 → List Char := fun _ => ['\uFFFD']

/-- A command in two pieces, the second of which tells the server to quit. -/
def cutTerminate : List (ServerEvent Nat) :=
  [.incomingConnection 0, .slotReady 0 [116, 101, 114, 109],
    .slotReady 0 (sendCmdBytes "inate".toList ++ sendCmdBytes "alive".toList)]

theorem commands_conserved_cutTerminate :
    let server := run (CommandServer.step .ascii replaced) (.start ⟨true, false, false⟩)
      cutTerminate
    server.quitting = true ∧
      commandLines (CommandServer.received replaced 0 cutTerminate) =
        (server.answersTo 0).map Answer.command ++ commandLines (server.cache 0) := by
  have enabled : Always (CommandServer.step .ascii replaced) CommandServer.Enabled
      (.start ⟨true, false, false⟩) cutTerminate := by decide +kernel
  exact ⟨by decide +kernel,
    (commands_conserved .ascii replaced ⟨true, false, false⟩ cutTerminate enabled 0).1⟩

/-- **A code is given to the service as it was sent.** When the bytes that a controller
writes for a code arrive over a connection whose address has no text kept, in pieces of any
size and among whatever else happens until the server is told to quit, the service is given
that code once, the controller is answered that it was, and no text is kept. -/
theorem sendCommand_round_trip (server : CommandServer Address) {code : Int}
    (low : -2147483648 ≤ code) (high : code ≤ 2147483647) (fresh : server.cache address = [])
    (enabled : Always (CommandServer.step spaces malformed) CommandServer.Enabled server events)
    (sent : (CommandServer.bytesOf address events).flatten =
      sendCmdBytes (sendCommandLine code)) :
    let after := run (CommandServer.step spaces malformed) server events
    after.cache address = [] ∧ ∃ given : Answer Address,
      after.answersTo address = server.answersTo address ++ [given] ∧
        given.call = some (.processCommand code) ∧ sendCmd true given.text = true := by
  intro after
  have nonempty : sendCommandLine code ≠ [] := List.cons_ne_nil _ _
  have once : (∃ flags, after.answersTo address =
        server.answersTo address ++ [answer spaces flags address (sendCommandLine code)]) ∧
      after.cache address = [] :=
    CommandServer.answered_once (plain_sendCommandLine code) nonempty fresh enabled sent
  obtain ⟨⟨flags, answered⟩, empty⟩ := once
  rw [answer_sendCommandLine spaces flags address low high] at answered
  exact ⟨empty, _, answered, rfl, sendCmd_text true _⟩

/-- A code sent in two pieces, with another client in between. -/
def cutCommand : List (ServerEvent Nat) :=
  [.incomingConnection 0, .slotReady 0 ((sendCmdBytes (sendCommandLine (-7))).take 3),
    .incomingConnection 1, .slotReady 1 (sendCmdBytes "alive".toList),
    .slotReady 0 ((sendCmdBytes (sendCommandLine (-7))).drop 3), .slotClosed 0]

theorem sendCommand_round_trip_cut :
    ∃ given : Answer Nat, (run (CommandServer.step .ascii replaced)
        (.start ⟨true, false, false⟩) cutCommand).answersTo 0 = [given] ∧
      given.call = some (.processCommand (-7)) ∧ sendCmd true given.text = true := by
  have sent : (CommandServer.bytesOf 0 cutCommand).flatten =
      sendCmdBytes (sendCommandLine (-7)) := by decide
  exact (sendCommand_round_trip .ascii replaced cutCommand 0 (.start ⟨true, false, false⟩)
    (by decide) (by decide) rfl (by decide +kernel) sent).2

/-- **When a connection is answered for itself.** After a run in which no empty line came
from an address, and while the server is not told to quit and no connection with that address
is open, the connections that come next with it are answered as if nothing had been kept,
whatever happens, exactly when those before ended at the end of a line. -/
theorem fresh_connection_iff
    (enabled : Always (CommandServer.step spaces malformed) CommandServer.Enabled (.start flags)
      events)
    (noEmpty : [] ∉ (split lineEnd (CommandServer.received malformed address events)).1) :
    let server := run (CommandServer.step spaces malformed) (.start flags) events
    server.quitting = false → address ∉ server.sockets →
      ((∀ later, Always (CommandServer.step spaces malformed) CommandServer.Enabled server later →
          (run (CommandServer.step spaces malformed) server later).answersTo address =
            (run (CommandServer.step spaces malformed) (server.forget address) later).answersTo
              address) ↔
        unfinished (CommandServer.received malformed address events) = []) := by
  intro server running closed
  have kept : server.cache address =
      unfinished (CommandServer.received malformed address events) :=
    (CommandServer.keeps_run spaces malformed flags events address enabled).rest noEmpty
  rw [← kept]
  constructor
  · intro same
    by_contra some
    obtain ⟨piece, differs⟩ := kept_shows spaces malformed server.serviceFlags address some
    have legal : Always (CommandServer.step spaces malformed) CommandServer.Enabled server
        [.incomingConnection address, .slotReady address piece] := by
      refine ⟨⟨running, closed⟩, ⟨?_, ?_⟩, trivial⟩
      · rw [CommandServer.step, running]
        exact running
      · rw [CommandServer.step, running]
        exact List.mem_cons_self
    have answered := same _ legal
    rw [CommandServer.answersTo_connected running,
      CommandServer.answersTo_forget_connected running, List.append_cancel_left_eq] at answered
    exact differs answered
  · intro none later _
    have forgets : server.forget address = server := by
      rw [CommandServer.forget, ← none, Function.update_eq_self]
    rw [forgets]

/-- A connection that is closed in the middle of a line. -/
def cutOff : List (ServerEvent Nat) :=
  [.incomingConnection 0, .slotReady 0 [116, 101, 114, 109], .slotClosed 0]

/-- The next connection with its address is not answered for itself. -/
theorem fresh_connection_iff_cutOff :
    let server := run (CommandServer.step .ascii replaced) (.start ⟨true, false, false⟩) cutOff
    ¬ ∀ later, Always (CommandServer.step .ascii replaced) CommandServer.Enabled server later →
      (run (CommandServer.step .ascii replaced) server later).answersTo 0 =
        (run (CommandServer.step .ascii replaced) (server.forget 0) later).answersTo 0 := by
  have text : CommandServer.received replaced 0 cutOff = ['t', 'e', 'r', 'm'] := by decide
  have split : split lineEnd (CommandServer.received replaced 0 cutOff) =
      ([], ['t', 'e', 'r', 'm']) := by
    rw [text]
    exact split_of_none (by decide)
  have noEmpty : [] ∉ (DelimitedStream.split lineEnd
      (CommandServer.received replaced 0 cutOff)).1 := by
    rw [split]
    exact List.not_mem_nil
  intro server same
  have ended := (fresh_connection_iff .ascii replaced ⟨true, false, false⟩ cutOff 0
    (by decide +kernel) noEmpty (by decide +kernel) (by decide +kernel)).mp same
  rw [unfinished, split] at ended
  exact absurd ended (List.cons_ne_nil _ _)

end Results

end WatchDog
