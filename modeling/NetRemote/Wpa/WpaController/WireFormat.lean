import NetRemote.Wpa.WpaController

namespace NetRemote.Wpa

open Foundation Foundation.Bytes

-- What stands before the first space, and what stands after it where there is one.
def cutSpace (text : ByteString) : ByteString × Option ByteString :=
  let word := text.takeWhile (· ≠ 32)
  (word, (text.drop word.length).tail?)

theorem cutSpace_words {word : ByteString} (h : 32 ∉ word) (rest : ByteString) :
    cutSpace (word ++ str " " ++ rest) = (word, some rest) := by
  have hword : (word ++ str " " ++ rest).takeWhile (· ≠ 32) = word := by
    rw [List.append_assoc, List.takeWhile_append_of_pos]
    · exact List.append_nil word
    · exact fun byte hbyte => decide_eq_true (ne_of_mem_of_not_mem hbyte h)
  simp only [cutSpace, hword]
  rw [List.append_assoc, List.drop_left]
  rfl

-- The command that a command line says: a word, and for two of the words what
-- follows it. The name of a property ends at the first space, and its value is all
-- the rest.
def readCommand (payload : ByteString) : Option WpaCommand :=
  match cutSpace payload with
  | (word, none) =>
      [.Ping, .Enable, .Disable, .Status, .Terminate, .GetConfig, .Reload].find? fun command =>
        command.payload = word
  | (word, some rest) =>
      if word = str "GET" then some (.Get rest)
      else if word = str "SET" then
        match cutSpace rest with
        | (propertyName, some propertyValue) => some (.Set propertyName propertyValue)
        | (_, none) => none
      else none

-- A value is read back whatever bytes it has.
theorem readCommand_payload {command : WpaCommand}
    (h : ∀ propertyName propertyValue, command = .Set propertyName propertyValue →
      32 ∉ propertyName) :
    readCommand command.payload = some command := by
  cases command with
  | Get propertyName =>
      have hcut : cutSpace (WpaCommand.Get propertyName).payload = (str "GET", some propertyName) :=
        cutSpace_words (by decide) propertyName
      simp [readCommand, hcut]
  | Set propertyName propertyValue =>
      have hcut : cutSpace (WpaCommand.Set propertyName propertyValue).payload =
          (str "SET", some (propertyName ++ str " " ++ propertyValue)) := by
        simpa only [WpaCommand.payload, List.append_assoc] using
          cutSpace_words (by decide) (propertyName ++ (str " " ++ propertyValue))
      have hword : str "SET" ≠ str "GET" := by decide
      have hrest := cutSpace_words (h propertyName propertyValue rfl) propertyValue
      simp only [readCommand, hcut, hword, hrest, if_false, if_true]
  | _ => decide

end NetRemote.Wpa
