import NovelAgent.ModelCalls.Structured

/-!
# Retries of the Editor

The requests that the editor derives from a request when it has to ask again:
after an answer that its contract refuses, and after a repair that changed
nothing.
-/

namespace NovelAgent.Editorial

open Domain ModelCalls

/-- A request of the editor, with the one further field that a retry sets. -/
structure EditorRequest extends TextRequest where
  repetitionPenalty : Option Rat

/-- What a retry appends to an identity. -/
structure RetrySuffix where
  text : String
  idChars : text.toList.all isIdChar = true
  short : text.toList.length < 128

/-- `_EDITOR_CONTRACT_RETRY_SUFFIX` -/
def contractRetrySuffix : RetrySuffix where
  text := ".contract-retry1"
  idChars := by decide
  short := by decide

/-- `_EDITOR_NO_CHANGE_RETRY_SUFFIX` -/
def noChangeRetrySuffix : RetrySuffix where
  text := ".no-change-retry1"
  idChars := by decide
  short := by decide

/-- How many characters of the parent a suffix leaves room for. -/
def RetrySuffix.room (suffix : RetrySuffix) : Nat := 128 - suffix.text.toList.length

theorem isStableIdChars_take_append {chars tail : List Char} {room : Nat}
    (hchars : isStableIdChars chars = true) (htail : tail.all isIdChar = true) (hroom : 0 < room)
    (hfit : room + tail.length ≤ 128) : isStableIdChars (chars.take room ++ tail) = true := by
  cases chars with
  | nil => cases hchars
  | cons c rest =>
    cases room with
    | zero => omega
    | succ room =>
      simp only [isStableIdChars, Bool.and_eq_true, decide_eq_true_eq] at hchars
      have hhead : (rest.take room).all isIdChar = true := by
        rw [List.all_eq_true] at *
        exact fun d hd => hchars.1.2 d (List.mem_of_mem_take hd)
      have hlength : (rest.take room).length ≤ room := List.length_take_le _ _
      simp only [List.take_succ_cons, List.cons_append, isStableIdChars, List.all_append,
        List.length_append, Bool.and_eq_true, decide_eq_true_eq]
      exact ⟨⟨hchars.1.1, hhead, htail⟩, by omega⟩

def retryId (suffix : RetrySuffix) (id : StableId) : StableId where
  root := String.ofList (id.root.toList.take suffix.room) ++ suffix.text
  valid := by
    have hshort := suffix.short
    unfold isStableId
    rw [String.toList_append, String.toList_ofList]
    refine isStableIdChars_take_append id.valid suffix.idChars ?_ ?_
    · unfold RetrySuffix.room
      omega
    · unfold RetrySuffix.room
      omega

/-- The characters of a derived identity. -/
theorem retryId_toList (suffix : RetrySuffix) (id : StableId) :
    (retryId suffix id).root.toList = id.root.toList.take suffix.room ++ suffix.text.toList := by
  unfold retryId
  rw [String.toList_append, String.toList_ofList]

/-- `_editor_contract_retry_request` -/
def editorContractRetryRequest (request : EditorRequest) : EditorRequest :=
  { request with requestId := retryId contractRetrySuffix request.requestId }

/-- `_EDITOR_NO_CHANGE_RETRY_REPETITION_PENALTY` -/
def noChangeRetryRepetitionPenalty : Rat := 11 / 10

/-- `_editor_no_change_retry_request` -/
def editorNoChangeRetryRequest (request : EditorRequest) : EditorRequest :=
  { request with
    requestId := retryId noChangeRetrySuffix request.requestId
    repetitionPenalty := some noChangeRetryRepetitionPenalty }

namespace Sample

def editorRequest (requestId : StableId) : EditorRequest where
  requestId := requestId
  runId := ⟨"run.1", .refl true⟩
  taskId := ⟨"task.1", .refl true⟩
  attemptId := none
  modelRole := .batchTest
  purpose := .development
  traceId := "trace"
  spanId := none
  prompt := "repair"
  responseSchema := none
  maxOutputTokens := none
  enableThinking := none
  thinkingTokenBudget := none
  schedulingStage := none
  budgetSource := none
  others := .null
  repetitionPenalty := none

end Sample

end NovelAgent.Editorial
