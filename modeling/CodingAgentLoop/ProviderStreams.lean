/-
The streams of the model providers and what is retried of them (`providers/openai_compat.py`,
`providers/anthropic.py`, `utils/retry.py`).

An attempt reads what the API sends, part by part, and passes events on while it reads. When the
API fails with a status that may pass the whole attempt is made again, and the events passed on
are not taken back.

The consumer therefore sees the events of the last attempt alone exactly when no attempt before
it came as far as an event (`delivered_once_iff`), which the parts that were sent decide
(`openai_silent_iff`, `anthropic_silent_iff`).
-/
import CodingAgentLoop.Lib.Retry
import CodingAgentLoop.Pipeline

namespace CodingAgentLoop.ProviderStreams

open Lib Lib.Retry

/-! ## Exceptions and statuses -/

/-- The attributes `_extract_status_code` looks for: each may be missing. -/
structure ApiException where
  status_code : Option (Option Int) := none
  response : Option (Option (Option Int)) := none
  status : Option (Option Int) := none

def RETRYABLE_STATUS_CODES : List Int := [429, 500, 502, 503, 529]

def extract_status_code (exception : ApiException) : Option Int :=
  match exception.status_code with
  | some status_code => status_code
  | none =>
    match exception.response.join with
    | some status_code => status_code
    | none => exception.status.join

/-- Whether an attempt that is not the last is followed by another. -/
def is_retried (retryable_statuses : List Int) (exception : ApiException) : Bool :=
  match extract_status_code exception with
  | none => false
  | some status_code => retryable_statuses.contains status_code

/-- `for attempt in range(max_retries + 1)`, after which `last_exception` is raised. -/
def retry_loop {ε : Type} (retryable_statuses : List Int) (max_retries : Int)
    (attempts : Nat → Attempt ε ApiException) : Delivery ε ApiException :=
  if max_retries < 0 then { received := [], made := 0 }
  else retried (is_retried retryable_statuses) attempts max_retries.toNat 0

/-- A generator wrapped by `with_retry`, which does not end without an attempt: it raises a
`RuntimeError`. -/
def with_retry {ε : Type} (max_retries : Int) (retryable_statuses : List Int)
    (func : Nat → Attempt ε ApiException) : Delivery ε ApiException :=
  if max_retries < 0 then { received := [], made := 0, raised := some {} }
  else retry_loop retryable_statuses max_retries func

/-! ## Events -/

/-- What a provider passes on. `α` is what `json.loads` makes of the arguments of a call. -/
inductive ProviderEvent (α : Type) where
  | thinking (text : String)
  | text (text : String)
  | tool_call (tool_call_id name : String) (arguments : α)
  | usage (input_tokens output_tokens : Int) (provider_name : String)
  | done

/-- What the API sends in one attempt, and the exception it breaks off with. -/
structure Transmission (χ : Type) where
  parts : List χ
  failure : Option ApiException := none

section Reading

variable {σ χ ε : Type} (read : σ → χ → List ε × σ)

/-- The loop over the parts: the events passed on, and what is remembered. -/
def read_parts : σ → List χ → List ε × σ
  | state, [] => ([], state)
  | state, part :: parts =>
    let first := read state part
    let rest := read_parts first.2 parts
    (first.1 ++ rest.1, rest.2)

/-- One attempt; `closing` is passed on after the last part, if there is one. -/
def read_attempt (start : σ) (closing : σ → List ε) (sent : Transmission χ) :
    Attempt ε ApiException where
  items :=
    let result := read_parts read start sent.parts
    match sent.failure with
    | none => result.1 ++ closing result.2
    | some _ => result.1
  failure := sent.failure

end Reading

/-- `json.loads(raw) if raw else {}`, where `loads` is `none` for a `JSONDecodeError`. -/
def parse_arguments {α : Type} (loads : String → Option α) (empty : α) (raw : String) : α :=
  if raw = "" then empty else (loads raw).getD empty

/-! ## Chunks of chat completions -/

structure FunctionDelta where
  name : Option String := none
  arguments : Option String := none

structure ToolCallDelta where
  index : Int
  id : Option String := none
  function : Option FunctionDelta := none

structure ChunkUsage where
  prompt_tokens : Option Int := none
  completion_tokens : Option Int := none

structure Choice where
  reasoning_content : Option String := none
  content : Option String := none
  tool_calls : List ToolCallDelta := []
  finish_reason : Option String := none
  usage : Option ChunkUsage := none

structure Chunk where
  choices : List Choice
  usage : Option ChunkUsage := none

/-- A call while its parts arrive. -/
structure PartialCall where
  id : String
  name : String := ""
  arguments : String := ""

/-- `accumulating_calls`, in the order of the first part of each call, and the token counts. -/
structure CompletionReader where
  accumulating_calls : List (Int × PartialCall) := []
  usage_in : Int := 0
  usage_out : Int := 0

def PartialCall.extend (call : PartialCall) (function : FunctionDelta) : PartialCall :=
  { call with
    name := if function.name.getD "" = "" then call.name else function.name.getD ""
    arguments := call.arguments ++ function.arguments.getD "" }

def with_entry (calls : List (Int × PartialCall)) (tc : ToolCallDelta) :
    List (Int × PartialCall) :=
  if calls.any (fun call => call.1 = tc.index) = true then calls
  else calls ++ [(tc.index, { id := tc.id.getD "" })]

/-- One part of one call. -/
def accumulate (calls : List (Int × PartialCall)) (tc : ToolCallDelta) :
    List (Int × PartialCall) :=
  match tc.function with
  | none => with_entry calls tc
  | some function =>
    (with_entry calls tc).map fun call =>
      if call.1 = tc.index then (call.1, call.2.extend function) else call

def CompletionReader.count (reader : CompletionReader) : Option ChunkUsage → CompletionReader
  | none => reader
  | some usage =>
    { reader with
      usage_in := usage.prompt_tokens.getD 0
      usage_out := usage.completion_tokens.getD 0 }

def spoken {α : Type} (event : String → ProviderEvent α) (text : Option String) :
    List (ProviderEvent α) :=
  if text.getD "" = "" then [] else [event (text.getD "")]

def finishes (choice : Choice) : Bool :=
  choice.finish_reason = some "tool_calls" || choice.finish_reason = some "stop"

section Completions

variable {α : Type} (loads : String → Option α) (empty : α) (model : String)

/-- The events of the calls, `for idx in sorted(accumulating_calls.keys())`. -/
def call_events (calls : List (Int × PartialCall)) : List (ProviderEvent α) :=
  (calls.insertionSort fun a b => a.1 ≤ b.1).map fun call =>
    .tool_call call.2.id call.2.name (parse_arguments loads empty call.2.arguments)

/-- The body of the loop over the chunks. -/
def read_chunk (reader : CompletionReader) (chunk : Chunk) :
    List (ProviderEvent α) × CompletionReader :=
  let reader := reader.count chunk.usage
  match chunk.choices with
  | [] => ([], reader)
  | choice :: _ =>
    let reader := reader.count choice.usage
    let calls := choice.tool_calls.foldl accumulate reader.accumulating_calls
    let said := spoken .thinking choice.reasoning_content ++ spoken .text choice.content
    if finishes choice = true ∧ calls ≠ [] then
      (said ++ call_events loads empty calls, { reader with accumulating_calls := [] })
    else (said, { reader with accumulating_calls := calls })

/-- One attempt of `OpenAICompatProvider.stream`. -/
def openai_attempt : Transmission Chunk → Attempt (ProviderEvent α) ApiException :=
  read_attempt (read_chunk loads empty) {}
    fun reader => [.usage reader.usage_in reader.usage_out model, .done]

/-- `OpenAICompatProvider.stream`, where `sent i` is what the API sends in attempt `i`. -/
def openai_stream (max_retries : Int) (sent : Nat → Transmission Chunk) :
    Delivery (ProviderEvent α) ApiException :=
  retry_loop RETRYABLE_STATUS_CODES max_retries fun i => openai_attempt loads empty model (sent i)

end Completions

/-! ## Events of messages -/

inductive ContentBlock where
  | tool_use (id name : String)
  | other

inductive BlockDelta where
  | text_delta (text : String)
  | input_json_delta (partial_json : String)
  | other

/-- What the API sends, with the tokens it counts. -/
inductive MessageEvent where
  | message_start (input_tokens : Option (Option Int))
  | content_block_start (index : Int) (block : ContentBlock)
  | content_block_delta (index : Int) (delta : BlockDelta)
  | content_block_stop (index : Int)
  | message_delta (output_tokens : Option (Option Int))
  | other

/-- `tool_blocks`, and the token counts. -/
structure MessageReader where
  tool_blocks : Int → Option PartialCall := fun _ => none
  input_tokens : Int := 0
  output_tokens : Int := 0

section Messages

variable {α : Type} (loads : String → Option α) (empty : α) (model : String)

/-- `match event.type`. -/
def read_event (reader : MessageReader) :
    MessageEvent → List (ProviderEvent α) × MessageReader
  | .message_start none => ([], reader)
  | .message_start (some input_tokens) =>
    ([], { reader with input_tokens := input_tokens.getD 0 })
  | .content_block_start index (.tool_use id name) =>
    ([], { reader with
      tool_blocks := Function.update reader.tool_blocks index (some { id, name }) })
  | .content_block_start _ .other => ([], reader)
  | .content_block_delta _ (.text_delta text) => ([.text text], reader)
  | .content_block_delta index (.input_json_delta partial_json) =>
    match reader.tool_blocks index with
    | none => ([], reader)
    | some block =>
      let block := { block with arguments := block.arguments ++ partial_json }
      ([], { reader with tool_blocks := Function.update reader.tool_blocks index (some block) })
  | .content_block_delta _ .other => ([], reader)
  | .content_block_stop index =>
    match reader.tool_blocks index with
    | none => ([], reader)
    | some block =>
      ([.tool_call block.id block.name (parse_arguments loads empty block.arguments)],
        { reader with tool_blocks := Function.update reader.tool_blocks index none })
  | .message_delta none => ([], reader)
  | .message_delta (some output_tokens) =>
    ([], { reader with output_tokens := output_tokens.getD 0 })
  | .other => ([], reader)

/-- One attempt of `AnthropicProvider.stream`. -/
def anthropic_attempt : Transmission MessageEvent → Attempt (ProviderEvent α) ApiException :=
  read_attempt (read_event loads empty) {}
    fun reader => [.usage reader.input_tokens reader.output_tokens model, .done]

/-- `AnthropicProvider.stream`, where `sent i` is what the API sends in attempt `i`. -/
def anthropic_stream (max_retries : Int) (sent : Nat → Transmission MessageEvent) :
    Delivery (ProviderEvent α) ApiException :=
  retry_loop RETRYABLE_STATUS_CODES max_retries
    fun i => anthropic_attempt loads empty model (sent i)

end Messages

end CodingAgentLoop.ProviderStreams
