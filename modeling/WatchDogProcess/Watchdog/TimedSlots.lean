import WatchDogProcess.Foundation.CommandLine
import WatchDogProcess.Monitor.ProcessTable

/-! # The slots that a restart schedules

`KillProctortrackIfNotResponding` runs `taskkill` or `killall` on the configured
product, or on all three when the configured name is none of theirs. It reads
the name from the history file when it runs and compares it with letter case
(`WatchDog.mem_killed_of_name`, `WatchDog.mem_killed_of_other`), unlike the scan.

`LaunchApp` puts the configured location in quotes, adds its fixed arguments, and
hands the line to `QProcess::startDetached`, which splits it again. An empty
location leaves no token, so that the first argument becomes the program
(`WatchDog.tokens_launchLine`).
-/

namespace WatchDog

/-- A command given to `QProcess::execute`. -/
inductive KillCommand where
  | taskkill (image : String)
  | killall (name : String)
  deriving DecidableEq, Repr

namespace KillCommand

/-- The command line. -/
def line : KillCommand → String
  | taskkill image => "taskkill /im " ++ image ++ " /f"
  | killall name => "killall " ++ name

/-- The executable that the command terminates. -/
def target : KillCommand → String
  | taskkill image => image
  | killall name => name

end KillCommand

/-- The commands run, for an outcome of the read of the history file. -/
def killProctortrackIfNotResponding (platform : Platform) (history : ReadOutcome) :
    List KillCommand :=
  let appName := getApplicationName history
  match platform with
  | .windows =>
      .taskkill "WerFault.exe" ::
        if appName = "Proctortrack" then [.taskkill "Proctortrack.exe"]
        else if appName = "RemoteDesk" then [.taskkill "RemoteDesk.exe"]
        else if appName = "FreshHire" then [.taskkill "FreshHire.exe"]
        else [.taskkill "Proctortrack.exe", .taskkill "RemoteDesk.exe", .taskkill "FreshHire.exe"]
  | .macOS =>
      if appName = "Proctortrack" then [.killall "Proctortrack"]
      else if appName = "RemoteDesk" then [.killall "RemoteDesk"]
      else if appName = "FreshHire" then [.killall "FreshHire"]
      else [.killall "Proctortrack", .killall "RemoteDesk", .killall "FreshHire"]

/-- The executables that a kill terminates. -/
def killed (platform : Platform) (history : ReadOutcome) : List String :=
  (killProctortrackIfNotResponding platform history).map KillCommand.target

/-! ### The launch -/

/-- `QDir::fromNativeSeparators` on Windows. -/
def fromNativeSeparators (path : String) : String :=
  String.ofList (path.toList.map fun character => if character = '\\' then '/' else character)

/-- The line that `LaunchApp` composes for a location. -/
def launchLine (platform : Platform) (location : String) : String :=
  match platform with
  | .windows => fromNativeSeparators ("\"" ++ location ++ "\"") ++ " -macUpdate"
  | .macOS => "\"" ++ location ++ "\"" ++ " argument -macUpdate"

/-- `QProcess::startDetached(command)`: the program started and its arguments,
`none` when the line has no token. -/
def startDetached (spaces : Whitespace) (command : String) : Option (String × List String) :=
  match CommandLine.tokens spaces command with
  | [] => none
  | program :: arguments => some (program, arguments)

def launchApp (spaces : Whitespace) (platform : Platform) (history : ReadOutcome) :
    Option (String × List String) :=
  startDetached spaces (launchLine platform (getAppRunningLocation history))

/-- The program that a location stands for. -/
def launchProgram (platform : Platform) (location : String) : String :=
  match platform with
  | .windows => fromNativeSeparators location
  | .macOS => location

/-- The fixed arguments. -/
def launchArguments : Platform → List String
  | .windows => ["-macUpdate"]
  | .macOS => ["argument", "-macUpdate"]

/-! ### What is killed -/

variable {platform : Platform} {history : ReadOutcome}

/-- On a product's own name the kill terminates that product, and on Windows the
error reporter. -/
theorem mem_killed_of_name {product : Product} (named : getApplicationName history = product.name)
    (executable : String) :
    executable ∈ killed platform history ↔
      executable = product.executable platform ∨
        platform = .windows ∧ executable = "WerFault.exe" := by
  cases platform <;> cases product <;>
    simp [killed, killProctortrackIfNotResponding, named, Product.name, Product.executable,
      KillCommand.target, or_comm]

/-- On any other name the kill terminates every product. -/
theorem mem_killed_of_other (other : ∀ product : Product, getApplicationName history ≠ product.name)
    (product : Product) : product.executable platform ∈ killed platform history := by
  have first := other .proctortrack
  have second := other .remoteDesk
  have third := other .freshHire
  simp only [Product.name] at first second third
  cases platform <;> cases product <;>
    simp [killed, killProctortrackIfNotResponding, first, second, third, Product.name,
      Product.executable, KillCommand.target]

/-! ### What is launched -/

theorem launchProgram_toList (location : String) :
    (launchProgram .windows location).toList =
      location.toList.map fun character => if character = '\\' then '/' else character :=
  String.toList_ofList

/-- Turning the separators leaves no quote where there was none. -/
theorem noQuote_launchProgram {location : String} (noQuote : '"' ∉ location.toList) :
    '"' ∉ (launchProgram platform location).toList := by
  cases platform with
  | macOS => exact noQuote
  | windows =>
      rw [launchProgram_toList, List.mem_map]
      rintro ⟨character, member, turned⟩
      split at turned
      · exact absurd turned (by decide)
      · exact noQuote (turned ▸ member)

/-- A location stands for an empty program only if it is empty. -/
theorem launchProgram_toList_eq_nil_iff (location : String) :
    (launchProgram platform location).toList = [] ↔ location = "" := by
  cases platform with
  | macOS => exact String.toList_eq_nil_iff
  | windows => rw [launchProgram_toList, List.map_eq_nil_iff, String.toList_eq_nil_iff]

/-- The fixed arguments are words that need no quotes. -/
theorem isWord_launchArguments (spaces : Whitespace) (platform : Platform) :
    ∀ word ∈ (launchArguments platform).map String.toList, CommandLine.IsWord spaces word := by
  have plain : ((launchArguments platform).map String.toList).all (fun word =>
      !word.isEmpty && word.all fun character => decide (character.val < 128) &&
        character ≠ '"' && !Whitespace.ascii.isSpace character) = true := by
    cases platform <;> decide
  intro word member
  have each := List.all_eq_true.mp plain word member
  rw [Bool.and_eq_true, List.all_eq_true] at each
  refine ⟨by simpa using each.1, ?_⟩
  intro character inWord
  have checked := each.2 character inWord
  simp only [Bool.and_eq_true, decide_eq_true_eq, Bool.not_eq_true'] at checked
  refine ⟨checked.1.2, Or.inr ?_⟩
  rw [spaces.isSpace_ascii character checked.1.1]
  exact checked.2

/-- The line is the quoted program and the arguments after blanks. -/
theorem launchLine_toList (platform : Platform) (location : String) :
    (launchLine platform location).toList =
      '"' :: (launchProgram platform location).toList ++ ['"'] ++
        ((launchArguments platform).map String.toList).flatMap (' ' :: ·) := by
  have quote : "\"".toList = ['"'] := by decide
  cases platform with
  | macOS =>
      have arguments : " argument -macUpdate".toList =
          ((launchArguments .macOS).map String.toList).flatMap (' ' :: ·) := by decide
      rw [launchLine, String.toList_append, String.toList_append, String.toList_append, quote,
        arguments]
      rfl
  | windows =>
      have arguments : " -macUpdate".toList =
          ((launchArguments .windows).map String.toList).flatMap (' ' :: ·) := by decide
      rw [launchLine, fromNativeSeparators, String.toList_append, String.toList_ofList,
        String.toList_append, String.toList_append, quote, arguments, launchProgram_toList,
        List.map_append, List.map_append]
      rfl

/-- The tokens of the line are the program, unless it is empty, and the arguments. -/
theorem tokens_launchLine (spaces : Whitespace) (platform : Platform) {location : String}
    (noQuote : '"' ∉ location.toList) :
    CommandLine.tokens spaces (launchLine platform location) =
      (if location = "" then [] else [launchProgram platform location]) ++
        launchArguments platform := by
  rw [CommandLine.tokens_quoted_words (noQuote_launchProgram noQuote)
    (isWord_launchArguments spaces platform) (launchLine_toList platform location),
    List.map_append, List.map_map]
  have back : String.ofList ∘ String.toList = id := funext fun _ => String.ofList_toList
  rw [back, List.map_id]
  simp only [launchProgram_toList_eq_nil_iff]
  congr 1
  split
  · rfl
  · rw [List.map_singleton, String.ofList_toList]

end WatchDog
