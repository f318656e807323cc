import WatchDogProcess.Foundation.DelimitedStream
import WatchDogProcess.Service.CommandText
import WatchDogProcess.Service.ServiceFlags
import Mathlib.Logic.Function.Basic

/-! # The command server of a Unix service

The server appends what it reads from a connection to a text that it keeps for the address
of the socket object, and answers the lines that it takes out of it (`slotReady`,
`qtservice_unix.cpp`); an empty line ends the loop. `slotClosed` deletes the socket object
and leaves its text, and a later object may have the same address. After a `terminate` that
the flags allow, the rest of the text is still answered, and then no event any more.
-/

namespace WatchDog

open DelimitedStream

/-- The end of a line. -/
def lineEnd : Delimiter Char := ⟨'\r', ['\n']⟩

/-- A command that was answered: the call it made, if any, and the reply. -/
structure Answer (Address : Type*) where
  sender : Address
  command : List Char
  call : Option ServiceCall
  reply : Bool
  deriving DecidableEq, Repr

/-- What the server writes back. -/
def Answer.text {Address : Type*} (given : Answer Address) : List Char :=
  if given.reply then "true".toList else "false".toList

variable {Address : Type*}

/-- A controller that reads the whole reply has the answer. -/
theorem sendCmd_text (connected : Bool) (given : Answer Address) :
    sendCmd connected given.text = (connected && given.reply) := by
  have different : "false".toList ≠ "true".toList := by decide
  unfold sendCmd Answer.text
  cases given.reply with
  | true => simp only [↓reduceIte, decide_true]
  | false => simp only [Bool.false_eq_true, ↓reduceIte, different, decide_false]

/-- `QtServiceSysPrivate::getCommand`: the command, and the text that stays. -/
def getCommand (cache : List Char) : List Char × List Char :=
  match cut lineEnd cache with
  | some found => found
  | none => ([], cache)

/-- What `slotReady` does about one command. -/
def answer (spaces : Whitespace) (serviceFlags : ServiceFlags) (sender : Address)
    (cmd : List Char) : Answer Address :=
  if cmd = "terminate".toList then
    if serviceFlags.cannotBeStopped = false then ⟨sender, cmd, some .stop, true⟩
    else ⟨sender, cmd, none, false⟩
  else if cmd = "pause".toList then
    if serviceFlags.canBeSuspended = true then ⟨sender, cmd, some .pause, true⟩
    else ⟨sender, cmd, none, false⟩
  else if cmd = "resume".toList then
    if serviceFlags.canBeSuspended = true then ⟨sender, cmd, some .resume, true⟩
    else ⟨sender, cmd, none, false⟩
  else if cmd = "alive".toList then ⟨sender, cmd, none, true⟩
  else if 4 < cmd.length ∧ cmd.take 4 = "num:".toList then
    ⟨sender, cmd, some (.processCommand (toInt spaces (cmd.drop 4))), true⟩
  else ⟨sender, cmd, none, false⟩

@[simp] theorem answer_command (spaces : Whitespace) (serviceFlags : ServiceFlags)
    (sender : Address) (cmd : List Char) :
    (answer spaces serviceFlags sender cmd).command = cmd := by
  unfold answer
  repeat' split
  all_goals rfl

@[simp] theorem answer_sender (spaces : Whitespace) (serviceFlags : ServiceFlags)
    (sender : Address) (cmd : List Char) :
    (answer spaces serviceFlags sender cmd).sender = sender := by
  unfold answer
  repeat' split
  all_goals rfl

/-- The line of a code is answered by giving that code to the service, whatever the flags. -/
theorem answer_sendCommandLine (spaces : Whitespace) (serviceFlags : ServiceFlags)
    (sender : Address) {code : Int} (low : -2147483648 ≤ code) (high : code ≤ 2147483647) :
    answer spaces serviceFlags sender (sendCommandLine code) =
      ⟨sender, sendCommandLine code, some (.processCommand code), true⟩ := by
  have other : ∀ word : List Char, word.head? ≠ some 'n' → sendCommandLine code ≠ word := by
    rintro word different rfl
    exact different rfl
  have keyword : (sendCommandLine code).take 4 = "num:".toList := List.take_left' (by decide)
  have rest : (sendCommandLine code).drop 4 = number code := List.drop_left' (by decide)
  have long : 4 < (sendCommandLine code).length := by
    have digits : 0 < (number code).length := List.length_pos_of_ne_nil (number_ne_nil code)
    have four : "num:".toList.length = 4 := by decide
    rw [sendCommandLine, List.length_append, four]
    omega
  rw [answer, if_neg (other _ (by decide)), if_neg (other _ (by decide)),
    if_neg (other _ (by decide)), if_neg (other _ (by decide)), if_pos ⟨long, keyword⟩, rest,
    toInt_number spaces low high]

theorem getCommand_shorter {cache : List Char} (command : (getCommand cache).1 ≠ []) :
    (getCommand cache).2.length < cache.length := by
  unfold getCommand at command ⊢
  cases found : cut lineEnd cache with
  | none =>
      rw [found] at command
      exact absurd rfl command
  | some pair => exact length_rest_lt found

/-- The loop of `slotReady`: the answers, and the text that stays. -/
def answers (spaces : Whitespace) (serviceFlags : ServiceFlags) (sender : Address)
    (cache : List Char) : List (Answer Address) × List Char :=
  let taken := getCommand cache
  if _command : taken.1 = [] then ([], taken.2)
  else
    let rest := answers spaces serviceFlags sender taken.2
    (answer spaces serviceFlags sender taken.1 :: rest.1, rest.2)
termination_by cache.length
decreasing_by exact getCommand_shorter _command

/-- The server: its flags, the sockets that are connected, the text kept for each address,
the answers so far, and whether it was told to quit. -/
structure CommandServer (Address : Type*) where
  serviceFlags : ServiceFlags
  sockets : List Address
  cache : Address → List Char
  answered : List (Answer Address)
  quitting : Bool

/-- A connection comes, has bytes to read, or is closed; the service sets its flags. -/
inductive ServerEvent (Address : Type*) where
  | incomingConnection (address : Address)
  | slotReady (address : Address) (piece : List UInt8)
  | slotClosed (address : Address)
  | setServiceFlags (flags : ServiceFlags)

namespace CommandServer

/-- A new server. -/
def start (flags : ServiceFlags) : CommandServer Address := ⟨flags, [], fun _ => [], [], false⟩

variable [DecidableEq Address]

/-- What the server makes of an event before it is told to quit. -/
def handle (spaces : Whitespace) (malformed : List UInt8 → List Char)
    (server : CommandServer Address) : ServerEvent Address → CommandServer Address
  | .incomingConnection address => { server with sockets := address :: server.sockets }
  | .slotReady sender piece =>
      let result := answers spaces server.serviceFlags sender
        (server.cache sender ++ QString.fromUtf8 malformed piece)
      { server with
        cache := Function.update server.cache sender result.2
        answered := server.answered ++ result.1
        quitting := server.quitting || result.1.any fun answer => answer.call = some .stop }
  | .slotClosed address => { server with sockets := server.sockets.erase address }
  | .setServiceFlags flags => { server with serviceFlags := flags }

/-- A server that was told to quit handles no event. -/
def step (spaces : Whitespace) (malformed : List UInt8 → List Char)
    (server : CommandServer Address) (event : ServerEvent Address) : CommandServer Address :=
  if server.quitting then server else server.handle spaces malformed event

/-- Until the server quits, sockets have the addresses that no other socket has. -/
def Enabled (server : CommandServer Address) : ServerEvent Address → Prop
  | .incomingConnection address => server.quitting = false ∧ address ∉ server.sockets
  | .slotReady address _ => server.quitting = false ∧ address ∈ server.sockets
  | .slotClosed address => server.quitting = false ∧ address ∈ server.sockets
  | .setServiceFlags _ => server.quitting = false

instance (server : CommandServer Address) :
    (event : ServerEvent Address) → Decidable (server.Enabled event)
  | .incomingConnection _ => inferInstanceAs (Decidable (_ ∧ _))
  | .slotReady _ _ => inferInstanceAs (Decidable (_ ∧ _))
  | .slotClosed _ => inferInstanceAs (Decidable (_ ∧ _))
  | .setServiceFlags _ => inferInstanceAs (Decidable (_ = _))

omit [DecidableEq Address] in
theorem quitting_of_enabled {server : CommandServer Address} {event : ServerEvent Address}
    (enabled : server.Enabled event) : server.quitting = false := by
  cases event with
  | incomingConnection address => exact enabled.1
  | slotReady sender piece => exact enabled.1
  | slotClosed address => exact enabled.1
  | setServiceFlags flags => exact enabled

theorem step_of_enabled (spaces : Whitespace) (malformed : List UInt8 → List Char)
    {server : CommandServer Address} {event : ServerEvent Address}
    (enabled : server.Enabled event) :
    server.step spaces malformed event = server.handle spaces malformed event := by
  rw [step, quitting_of_enabled enabled, if_neg Bool.false_ne_true]

end CommandServer

end WatchDog
