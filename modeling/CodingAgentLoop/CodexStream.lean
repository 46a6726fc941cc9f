/-
`CodexResponsesProvider._events_from_response`.

The body of a Responses request is read line by line, where a line ends wherever `str.splitlines`
ends one. An `event:` line names the next payload, the `data:` lines of a frame are joined, and a
blank line or the end of the body hands them on. What is not a JSON document is passed over.
-/
import CodingAgentLoop.Lib.JsonText
import CodingAgentLoop.ProviderStreams

open Lib Lib.TextLines Lib.JsonText

namespace CodingAgentLoop.CodexStream

open ProviderStreams

/-! ## What a generator passes on -/

/-- The events that are passed on, and the exception the generator ends with. -/
structure Emission (α : Type) where
  events : List (ProviderEvent α) := []
  raised : Option StoreError := none

def Emission.then {α : Type} (first second : Emission α) : Emission α :=
  match first.raised with
  | some _ => first
  | none => ⟨first.events ++ second.events, second.raised⟩

/-! ## Payloads -/

/-- `_str(value)`. -/
def str_of : Json → String
  | .str value => value
  | _ => ""

/-- `_int(value)`. -/
def int_of : Json → Int
  | .int value => value
  | .bool value => if value then 1 else 0
  | _ => 0

/-- The arguments of a call, as `_tool_call_event_from_item` reads them. -/
def tool_arguments (numbers : Numbers) (item : JsonObject) : JsonObject :=
  match item.get "arguments" with
  | .str arguments_raw =>
    if arguments_raw = "" then []
    else
      match loads numbers arguments_raw.toList with
      | some (.obj parsed) => parsed
      | _ => []
  | .obj arguments_raw => arguments_raw
  | _ => []

/-- `_tool_call_event_from_item(item)`, where `read_arguments` reads the arguments. -/
def tool_call_event_from_item {α : Type} (read_arguments : JsonObject → α) (item : JsonObject) :
    ProviderEvent α :=
  .tool_call
    (if str_of (item.get "call_id") = "" then str_of (item.get "id")
      else str_of (item.get "call_id"))
    (str_of (item.get "name")) (read_arguments item)

def response_error_message (payload : JsonObject) (fallback : String) : String :=
  match payload.get "response" with
  | .obj response =>
    match JsonObject.get response "error" with
    | .obj error =>
      if str_of (JsonObject.get error "message") = "" then fallback
      else str_of (JsonObject.get error "message")
    | _ => fallback
  | _ => fallback

def delta_events {α : Type} (event : String → ProviderEvent α) (delta : String) :
    List (ProviderEvent α) := if delta = "" then [] else [event delta]

/-- `response.get("usage") if isinstance(response, dict) else None`, where it is a dict. -/
def completed_usage (payload : JsonObject) : Option JsonObject :=
  match payload.get "response" with
  | .obj response => (JsonObject.get response "usage").obj?
  | _ => none

def usage_events {α : Type} (model : String) : Option JsonObject → List (ProviderEvent α)
  | none => []
  | some usage =>
    [.usage (int_of (usage.get "input_tokens")) (int_of (usage.get "output_tokens")) model]

def function_call_item (payload : JsonObject) : Option JsonObject :=
  match payload.get "item" with
  | .obj item => if JsonObject.get item "type" = .str "function_call" then some item else none
  | _ => none

/-- What kind of event a payload is, `_str(payload.get("type")) or event_name`. -/
def payload_kind (event_name : Option Text) (payload : JsonObject) : Option String :=
  if str_of (payload.get "type") = "" then event_name.map String.ofList
  else some (str_of (payload.get "type"))

def payload_emission {α : Type} (read_arguments : JsonObject → α) (model : String)
    (event_name : Option Text) (payload : JsonObject) : Emission α :=
  let kind := payload_kind event_name payload
  if kind = some "response.output_text.delta" then
    { events := delta_events .text (str_of (payload.get "delta")) }
  else if kind = some "response.reasoning_text.delta"
      ∨ kind = some "response.reasoning_summary_text.delta" then
    { events := delta_events .thinking (str_of (payload.get "delta")) }
  else if kind = some "response.output_item.done" then
    { events := ((function_call_item payload).map
        (tool_call_event_from_item read_arguments)).toList }
  else if kind = some "response.failed" then
    { raised := some (.raised .RuntimeError
        (response_error_message payload "Codex response failed")) }
  else if kind = some "response.incomplete" then
    { raised := some (.raised .RuntimeError
        (response_error_message payload "Codex response incomplete")) }
  else if kind = some "response.completed" then
    { events := usage_events model (completed_usage payload) ++ [.done] }
  else {}

def events_from_sse_payload (numbers : Numbers) (model : String) (event_name : Option Text)
    (data : Text) : Emission JsonObject :=
  if data = [] ∨ data = "[DONE]".toList then {}
  else
    match loads numbers data with
    | none => {}
    | some (.obj payload) => payload_emission (tool_arguments numbers) model event_name payload
    | some payload =>
      { raised := some (.raised .AttributeError
          ("'" ++ payload.type_name ++ "' object has no attribute 'get'")) }

/-! ## Lines -/

/-- The characters of `str.isspace`. -/
def spaces : List Char :=
  ['\t', '\n', '\x0b', '\x0c', '\r', '\x1c', '\x1d', '\x1e', '\x1f', ' ', '\u0085', '\u00a0',
    '\u1680', '\u2000', '\u2001', '\u2002', '\u2003', '\u2004', '\u2005', '\u2006', '\u2007',
    '\u2008', '\u2009', '\u200a', '\u2028', '\u2029', '\u202f', '\u205f', '\u3000']

def is_space (char : Char) : Bool := spaces.contains char

def lstrip (text : Text) : Text := text.dropWhile is_space

def strip (text : Text) : Text := (lstrip (lstrip text).reverse).reverse

/-- `raw_line.rstrip("\r")`. -/
def rstrip_return (raw_line : Text) : Text := (raw_line.reverse.dropWhile (· = '\r')).reverse

/-- `"\n".join(data_lines)`. -/
def join_data (data_lines : List Text) : Text := ['\n'].intercalate data_lines

section

variable (numbers : Numbers) (model : String)

/-- The loop of `_events_from_response`, with what it remembers. -/
def read_lines : Option Text → List Text → List Text → Emission JsonObject
  | pending_event, data_lines, [] =>
    if data_lines = [] then {}
    else events_from_sse_payload numbers model pending_event (join_data data_lines)
  | pending_event, data_lines, raw_line :: rest =>
    let line := rstrip_return raw_line
    if line = [] then
      (events_from_sse_payload numbers model pending_event (join_data data_lines)).then
        (read_lines none [] rest)
    else
      match expect "event:".toList line, expect "data:".toList line with
      | some event, _ => read_lines (some (strip event)) data_lines rest
      | none, some data => read_lines pending_event (data_lines ++ [lstrip data]) rest
      | none, none => read_lines pending_event data_lines rest

/-- `_events_from_response(response)` for a body that is the text. -/
def events_from_response (text : Text) : Emission JsonObject :=
  read_lines numbers model none [] (splitlines text false)

end

end CodingAgentLoop.CodexStream
