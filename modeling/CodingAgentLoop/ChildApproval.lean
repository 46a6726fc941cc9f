/-
What tool calls an agent and its sub-agents are granted (`core/app.py`, `plugins/approval.py`,
`agentkit/directive/executor.py`, `tools/subagent.py`).

A call is granted in three layers: the policy of the approval plugin answers with a directive, the
directive executor carries it out, and where the user is to be asked a handler passes the request
to the consumer. A sub-agent's layers are built anew: its policy from the default configuration
file, its consumer around the parent's.

`agent_host` puts these layers into the toolset of `ToolGovernance`. A directive of the toolset
does not carry the call it is about, which there is the call validated last (`asked_call`).
-/
import CodingAgentLoop.GovernedTrace

namespace CodingAgentLoop.ChildApproval

open Lib

/-! ## Policies and directives -/

inductive ApprovalPolicy where
  | YOLO
  | INTERACTIVE
  | AUTO
  deriving DecidableEq

/-- What the plugin answers with. -/
inductive AgentDirective where
  | Approve
  | Reject (reason : String)
  | AskUser (question : String) (tool_name : String) (arguments : JsonObject)

structure ApprovalPlugin where
  policy : ApprovalPolicy := .AUTO
  safe_tools : List String := []
  blocked_tools : List String := []
  external_request_tools : List String := ["web_search"]

def ApprovalPlugin.set_policy (plugin : ApprovalPlugin) (policy : ApprovalPolicy) :
    ApprovalPlugin :=
  { plugin with policy }

/-- `approve_tool_call(tool_name, arguments)`, where `str` prints the arguments. -/
def ApprovalPlugin.approve_tool_call (plugin : ApprovalPlugin) (str : JsonObject → String)
    (tool_name : String) (arguments : JsonObject) : AgentDirective :=
  if tool_name ∈ plugin.blocked_tools then
    .Reject ("tool '" ++ tool_name ++ "' is blocked")
  else if tool_name ∈ plugin.external_request_tools then
    if plugin.policy = .YOLO then .Approve
    else
      .AskUser ("Tool '" ++ tool_name ++ "' performs an external request. Allow?")
        tool_name arguments
  else
    match plugin.policy with
    | .YOLO => .Approve
    | .INTERACTIVE =>
      .AskUser ("Allow tool '" ++ tool_name ++ "' with args " ++ str arguments ++ "?")
        tool_name arguments
    | .AUTO =>
      if tool_name ∈ plugin.safe_tools then .Approve
      else
        .AskUser ("Tool '" ++ tool_name ++ "' requires approval. Allow?") tool_name arguments

/-! ## Asking the user -/

structure ApprovalRequest where
  tool : String
  args : JsonObject

/-- `consumer.request_approval(req)`: whether it is approved. -/
abbrev WireConsumer := ApprovalRequest → Except TurnError Bool

/-- `DirectiveExecutor._ask_user`. -/
abbrev AskUserHandler := String → String → JsonObject → Except TurnError Bool

def make_ask_user_handler (consumer : WireConsumer) : AskUserHandler :=
  fun question tool_name arguments =>
    consumer
      { tool := if tool_name = "" then "approval" else tool_name
        args := if arguments = [] then [("question", .str question)] else arguments }

def execute (ask_user : Option AskUserHandler) : AgentDirective → Except TurnError Bool
  | .Approve => .ok true
  | .Reject _ => .ok false
  | .AskUser question tool_name arguments =>
    match ask_user with
    | some ask_user => ask_user question tool_name arguments
    | none => .ok false

/-- `_ChildWriteLeaseConsumer.request_approval(req)`. -/
def child_consumer (consumer : Option WireConsumer) : WireConsumer :=
  match consumer with
  | none => fun _ => .ok true
  | some consumer => consumer

/-! ## Building an agent -/

structure AgentFile where
  plugins : List String := []
  policy : Option String := none
  blocked_tools : List String := []

def approval_policy_map : String → Option ApprovalPolicy
  | "yolo" => some .YOLO
  | "interactive" => some .INTERACTIVE
  | "auto" => some .AUTO
  | _ => none

/-- `approval_mode_override or approval_cfg.get("policy", "auto")`. -/
def policy_str (file : AgentFile) (approval_mode_override : Option String) : String :=
  if approval_mode_override.getD "" = "" then file.policy.getD "auto"
  else approval_mode_override.getD ""

/-- The part of `create_child_pipeline` that makes the approval plugin, if it is enabled. Where no
plugins are named all are enabled. -/
def create_child_pipeline (file : AgentFile) (approval_mode_override : Option String) :
    Except StoreError (Option ApprovalPlugin) :=
  match approval_policy_map (policy_str file approval_mode_override) with
  | none =>
    .error (.raised .ValueError
      ("unsupported approval policy: " ++ policy_str file approval_mode_override))
  | some policy =>
    .ok (if file.plugins = [] ∨ "approval" ∈ file.plugins then
      some { policy, blocked_tools := file.blocked_tools }
    else none)

/-- `create_agent(config_path, approval_mode_override)`. `none` is the default path. -/
def create_agent (files : Option String → AgentFile) (config_path : Option String)
    (approval_mode_override : Option String) : Except StoreError (Option ApprovalPlugin) :=
  create_child_pipeline (files config_path) approval_mode_override

/-- What `subagent_dispatch` calls: neither the path nor the override is passed on. -/
def child_pipeline_builder (files : Option String → AgentFile) :
    Except StoreError (Option ApprovalPlugin) :=
  create_child_pipeline (files none) none

/-! ## Granting a call -/

/-- Whether the toolset of an agent approves a call: `plugin` is its approval plugin and `consumer`
the consumer of its adapter. -/
def grants (str : JsonObject → String) (plugin : Option ApprovalPlugin)
    (consumer : Option WireConsumer) (tool_name : String) (arguments : JsonObject) : Bool :=
  match plugin with
  | none => true
  | some plugin =>
    match execute (consumer.map make_ask_user_handler)
        (plugin.approve_tool_call str tool_name arguments) with
    | .ok approved => approved
    | .error _ => false

/-- The consumer that answers everything it is asked about one call with `reply`. -/
def replies (reply : Except TurnError Bool) : WireConsumer := fun _ => reply

/-- The parent, whose policy may have been set since, asks the wire consumer if there is one. -/
def parent_grants (str : JsonObject → String) (built : Option ApprovalPlugin)
    (policies : List ApprovalPolicy) (reply : Option (Except TurnError Bool))
    (tool_name : String) (arguments : JsonObject) : Bool :=
  grants str (built.map fun plugin => policies.foldl ApprovalPlugin.set_policy plugin)
    (reply.map replies) tool_name arguments

/-- A child always has a consumer: the one around the parent's. -/
def child_grants (str : JsonObject → String) (built : Option ApprovalPlugin)
    (reply : Option (Except TurnError Bool)) (tool_name : String) (arguments : JsonObject) : Bool :=
  grants str built (some (child_consumer (reply.map replies))) tool_name arguments

/-! ## The toolset of an agent -/

def asked_call (trace : List ToolEvent) : Option GovernedCall :=
  match trace.getLast? with
  | some (.validated call _ _) => some call
  | _ => none

def AgentDirective.read : AgentDirective → Directive
  | .Approve => { kind := "approve" }
  | .Reject reason => { kind := "reject", reason := some reason }
  | .AskUser _ _ _ => { kind := "ask_user" }

/-- A host whose approvals are those of an agent. What it offers and executes is as in `base`. -/
def agent_host (base : ToolHost) (str : JsonObject → String) (plugin : Option ApprovalPlugin)
    (consumer : GovernedCall → Option WireConsumer) : ToolHost :=
  { base with
    approval_hooks := fun _ => .ok (if plugin.isSome then 1 else 0)
    approve_tool_call := fun _ call _ =>
      { outcome := .ok
          (match plugin with
          | none => .unanswered
          | some plugin =>
            .directive
              (plugin.approve_tool_call str call.call.name call.call.arguments).read) }
    directive_executor := some fun state _ =>
      { outcome :=
          match plugin, asked_call state.trace with
          | some plugin, some call =>
            execute ((consumer call).map make_ask_user_handler)
              (plugin.approve_tool_call str call.call.name call.call.arguments)
          | _, _ => .ok false } }

/-- The toolset of a child, where `reply` is what the user says about each call, if there is a
wire consumer. -/
def child_host (base : ToolHost) (str : JsonObject → String) (built : Option ApprovalPlugin)
    (reply : GovernedCall → Option (Except TurnError Bool)) : ToolHost :=
  agent_host base str built fun call => some (child_consumer ((reply call).map replies))

end CodingAgentLoop.ChildApproval
