import WatchDogProcess.Foundation.KeyedRecord

/-! # JSON files and the reads made of them

The watchdog and the proctored application share two JSON files: the history
file at a fixed path, and the status file whose path the history file names.
Every read of either has the same shape: `exists()`, `open(ReadWrite)` whose
result is ignored, `fromJson(readAll()).object()`, and one key converted with
`toString()` or `toBool()`. Each such read has one of the outcomes of
`WatchDog.ReadOutcome`, and every failure becomes the converted default
(`WatchDog.readString`, `WatchDog.readBool`).

`QJsonDocument::fromJson` gives the empty document on a text that is not JSON,
whose `object()` is the empty object; an absent key converts to the empty string
or to false.
-/

namespace WatchDog

open KeyedRecord

/-- A JSON value. Numbers, arrays and objects are never inspected and stand as
their text. -/
inductive QJsonValue where
  | null
  | bool (value : Bool)
  | string (value : String)
  | other (text : String)
  deriving DecidableEq, Repr

/-- A JSON object: its value at each key. -/
abbrev QJsonObject := Record String QJsonValue

/-- `toBool()` of the value at a key. -/
def boolValue (object : QJsonObject) (key : String) : Bool :=
  match object key with
  | some (.bool value) => value
  | _ => false

/-- `toString()` of the value at a key. -/
def stringValue (object : QJsonObject) (key : String) : String :=
  match object key with
  | some (.string value) => value
  | _ => ""

/-- What stands at a path. A text is kept as the object it parses to, `none`
when it is empty, truncated or otherwise not a JSON object. -/
inductive FileState where
  | missing
  | text (object : Option QJsonObject)

/-- `fromJson(text).object()`. -/
def fromJson (text : Option QJsonObject) : QJsonObject := text.getD empty

/-- The outcome of `exists()`, `open(ReadWrite)` and `readAll()`. -/
inductive ReadOutcome where
  | missing
  | unopened
  | text (object : Option QJsonObject)

/-- A read that meets no failure of the file system. -/
def FileState.read : FileState → ReadOutcome
  | .missing => .missing
  | .text object => .text object

/-- The object a read yields; a file that cannot be opened reads as no text. -/
def ReadOutcome.object : ReadOutcome → QJsonObject
  | .missing => empty
  | .unopened => fromJson none
  | .text content => fromJson content

/-- A getter of a string key. -/
def readString (key : String) : ReadOutcome → String
  | .missing => ""
  | .unopened => stringValue (fromJson none) key
  | .text content => stringValue (fromJson content) key

/-- A getter of a boolean key. -/
def readBool (key : String) : ReadOutcome → Bool
  | .missing => false
  | .unopened => boolValue (fromJson none) key
  | .text content => boolValue (fromJson content) key

@[simp] theorem readString_text (key : String) (object : QJsonObject) :
    readString key (.text (some object)) = stringValue object key := rfl

@[simp] theorem readBool_text (key : String) (object : QJsonObject) :
    readBool key (.text (some object)) = boolValue object key := rfl

/-- The application sets some keys of the object in a file; on a file that holds
none it starts from the empty object. -/
def FileState.update (file : FileState) (keys : QJsonObject) : FileState :=
  match file with
  | .missing => .text (some (overlay empty keys))
  | .text content => .text (some (overlay (fromJson content) keys))

/-! ### The getters of the history file -/

def getAppCurrentStep : ReadOutcome → String := readString "app_current_step"

def getThreadHistoryPath : ReadOutcome → String := readString "thread_history_path"

def getAppDataPath : ReadOutcome → String := readString "app_data_path"

def getAppRunningLocation : ReadOutcome → String := readString "app_location"

def getApplicationName : ReadOutcome → String := readString "app_name"

def getWhiteListedTabForWD : ReadOutcome → String := readString "white_listed_tabs_for_wd"

def getisAnyStepWatchdog : ReadOutcome → Bool := readBool "launch_app_in_all_conditions"

def getisSceenCoverReq : ReadOutcome → Bool := readBool "is_sceen_cover_required"

def getIsCloseBLAppUsingWd : ReadOutcome → Bool := readBool "is_close_bl_apps_using_wd"

end WatchDog
