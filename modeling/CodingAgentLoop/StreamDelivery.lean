/-
When a retried stream is delivered once.

The theorem is `delivered_once_iff`. What an attempt passes on is the events of its parts, one
after the other (`read_parts`), so that an attempt that breaks off has passed on nothing exactly
when none of its parts came to an event: `openai_silent` and `anthropic_silent` read this off what
the API sent.
-/
import CodingAgentLoop.ProviderStreams

namespace CodingAgentLoop.ProviderStreams

open Lib Lib.Retry List

/-! ## Attempts and deliveries -/

section

variable {ε : Type}

/-- The items of the last of the first `made` attempts. -/
def last_items (attempts : Nat → Attempt ε ApiException) : Nat → List ε
  | 0 => []
  | made + 1 => (attempts made).items

/-- A consumer that sees the stream end has the items of the last attempt and no others. -/
def DeliveredOnce (delivery : Delivery ε ApiException)
    (attempts : Nat → Attempt ε ApiException) : Prop :=
  delivery.raised = none → delivery.received = last_items attempts delivery.made

/-- In every run that ends at attempt `last`, the attempts before it are silent. -/
def SilentBefore (retryable_statuses : List Int) (max_retries : Int)
    (attempts : Nat → Attempt ε ApiException) (silent : Nat → Prop) : Prop :=
  ∀ last : Nat, (last : Int) ≤ max_retries →
    EndsAt (is_retried retryable_statuses) attempts 0 last → ∀ i < last, silent i

variable {retryable_statuses : List Int} {max_retries : Int}
variable {attempts : Nat → Attempt ε ApiException} {silent : Nat → Prop}

theorem retry_loop_of_nonneg (h : 0 ≤ max_retries) :
    retry_loop retryable_statuses max_retries attempts
      = retried (is_retried retryable_statuses) attempts max_retries.toNat 0 := by
  unfold retry_loop
  rw [if_neg (by omega)]

theorem retry_loop_once_iff
    (hsilent : ∀ i, (attempts i).failure.isSome = true → (silent i ↔ (attempts i).items = [])) :
    DeliveredOnce (retry_loop retryable_statuses max_retries attempts) attempts
      ↔ SilentBefore retryable_statuses max_retries attempts silent := by
  have hfailed : ∀ {last : Nat}, EndsAt (is_retried retryable_statuses) attempts 0 last →
      ∀ i < last, (attempts i).failure.isSome = true := by
    intro last hends i hi
    have hagain := hends.2.2 i (by omega) hi
    cases hfailure : (attempts i).failure with
    | none => simp [hfailure] at hagain
    | some failure => rfl
  by_cases hneg : max_retries < 0
  · unfold DeliveredOnce SilentBefore retry_loop
    rw [if_pos hneg]
    constructor
    · intro _ last hlast
      omega
    · intro _ _
      rfl
  · rw [retry_loop_of_nonneg (by omega)]
    constructor
    · intro honce last hlast hends i hi
      have hleft : last ≤ 0 + max_retries.toNat := by omega
      have hrun := retried_endsAt hends hleft
      have hreceived := honce (by rw [hrun])
      rw [hrun] at hreceived
      have hall := (received_eq_iff hends hleft).mp (by rw [hrun]; exact hreceived)
      exact (hsilent i (hfailed hends i hi)).mpr (hall i (by omega) hi)
    · intro hquiet hraised
      obtain ⟨last, hleft, hends⟩ := endsAt_of_retried hraised
      have hnone : ∀ i, 0 ≤ i → i < last → (attempts i).items = [] := by
        intro i _ hi
        exact (hsilent i (hfailed hends i hi)).mp (hquiet last (by omega) hends i hi)
      have hmade : (retried (is_retried retryable_statuses) attempts max_retries.toNat 0).made
          = last + 1 := by rw [retried_endsAt hends hleft]
      rw [hmade]
      exact (received_eq_iff hends hleft).mpr hnone

theorem with_retry_once_iff
    (hsilent : ∀ i, (attempts i).failure.isSome = true → (silent i ↔ (attempts i).items = [])) :
    DeliveredOnce (with_retry max_retries retryable_statuses attempts) attempts
      ↔ SilentBefore retryable_statuses max_retries attempts silent := by
  by_cases hneg : max_retries < 0
  · unfold DeliveredOnce SilentBefore with_retry
    rw [if_pos hneg]
    constructor
    · intro _ last hlast
      omega
    · intro _ hraised
      cases hraised
  · have hloop : with_retry max_retries retryable_statuses attempts
        = retry_loop retryable_statuses max_retries attempts := by
      unfold with_retry
      rw [if_neg hneg]
    rw [hloop]
    exact retry_loop_once_iff hsilent

end

/-! ## Chunks that come to no event -/

/-- The chunks say nothing: no reasoning, no content, and no end of calls once one has begun. -/
def openai_silent : Bool → List Chunk → Bool
  | _, [] => true
  | begun, chunk :: chunks =>
    match chunk.choices with
    | [] => openai_silent begun chunks
    | choice :: _ =>
      let begun := begun || !choice.tool_calls.isEmpty
      choice.reasoning_content.getD "" == "" && choice.content.getD "" == ""
        && !(finishes choice && begun) && openai_silent begun chunks

section

variable (calls : List (Int × PartialCall))

theorem with_entry_ne_nil (tc : ToolCallDelta) :
    with_entry calls tc ≠ [] := by
  unfold with_entry
  split
  · rename_i hany
    intro hnil
    rw [hnil] at hany
    simp at hany
  · simp

theorem accumulate_ne_nil (tc : ToolCallDelta) :
    accumulate calls tc ≠ [] := by
  have hentry := with_entry_ne_nil calls tc
  unfold accumulate
  cases tc.function with
  | none => exact hentry
  | some function => simpa using hentry

theorem accumulated_ne_nil_iff (deltas : List ToolCallDelta) :
    deltas.foldl accumulate calls ≠ [] ↔ calls ≠ [] ∨ deltas ≠ [] := by
  induction deltas generalizing calls with
  | nil => simp
  | cons tc deltas ih =>
    rw [foldl_cons, ih]
    have hcalls := accumulate_ne_nil calls tc
    simp [hcalls]

end

theorem spoken_eq_nil_iff {α : Type} (event : String → ProviderEvent α) (text : Option String) :
    spoken event text = [] ↔ text.getD "" = "" := by
  unfold spoken
  by_cases h : text.getD "" = ""
  · simp [h]
  · simp [h]

section

variable {α : Type} {loads : String → Option α} {empty : α} {model : String}

theorem call_events_ne_nil {calls : List (Int × PartialCall)} (h : calls ≠ []) :
    call_events loads empty calls ≠ [] := by
  have hlength : (call_events loads empty calls).length = calls.length := by
    unfold call_events
    rw [length_map, length_insertionSort]
  intro hnil
  rw [hnil] at hlength
  exact h (length_eq_zero_iff.mp hlength.symm)

/-- The induction is on the chunks; `begun` says whether calls are being accumulated. -/
theorem openai_silent_iff (chunks : List Chunk) (reader : CompletionReader) (begun : Bool)
    (hbegun : begun = true ↔ reader.accumulating_calls ≠ []) :
    openai_silent begun chunks = true
      ↔ (read_parts (read_chunk loads empty) reader chunks).1 = [] := by
  induction chunks generalizing reader begun with
  | nil => simp [openai_silent, read_parts]
  | cons chunk chunks ih =>
    have hcount : ∀ (reader : CompletionReader) (usage : Option ChunkUsage),
        (reader.count usage).accumulating_calls = reader.accumulating_calls := by
      intro reader usage
      cases usage with
      | none => rfl
      | some usage => rfl
    unfold openai_silent read_parts
    cases hchoices : chunk.choices with
    | nil =>
      simp only [read_chunk, hchoices, nil_append]
      exact ih (reader.count chunk.usage) begun (by rw [hcount]; exact hbegun)
    | cons choice others =>
      simp only [read_chunk, hchoices, hcount, Bool.and_eq_true, beq_iff_eq, Bool.not_eq_true',
        append_eq_nil_iff]
      have hcalls := accumulated_ne_nil_iff reader.accumulating_calls choice.tool_calls
      have hnext : (begun || !choice.tool_calls.isEmpty) = true
          ↔ choice.tool_calls.foldl accumulate reader.accumulating_calls ≠ [] := by
        rw [hcalls, Bool.or_eq_true, hbegun]
        simp
      by_cases hends : finishes choice = true
          ∧ choice.tool_calls.foldl accumulate reader.accumulating_calls ≠ []
      · have hnone := @call_events_ne_nil α loads empty _ hends.2
        rw [if_pos hends, hends.1, hnext.mpr hends.2]
        simp [hnone]
      · have hopen : (finishes choice && (begun || !choice.tool_calls.isEmpty)) = false := by
          rw [Bool.eq_false_iff, ne_eq, Bool.and_eq_true, hnext]
          exact hends
        have hrest := ih
          { (reader.count chunk.usage).count choice.usage with
            accumulating_calls := choice.tool_calls.foldl accumulate reader.accumulating_calls }
          (begun || !choice.tool_calls.isEmpty) hnext
        rw [if_neg hends, hopen]
        simp only [append_eq_nil_iff, spoken_eq_nil_iff]
        rw [hrest]
        tauto

end

/-! ## Message events that come to no event -/

/-- The events of the API say nothing: no text, and no end of a call that has begun. -/
def anthropic_silent : List Int → List MessageEvent → Bool
  | _, [] => true
  | begun, .content_block_start index (.tool_use _ _) :: events =>
    anthropic_silent (index :: begun) events
  | _, .content_block_delta _ (.text_delta _) :: _ => false
  | begun, .content_block_stop index :: events =>
    !begun.contains index && anthropic_silent begun events
  | begun, _ :: events => anthropic_silent begun events

def Opened (begun : List Int) (reader : MessageReader) : Prop :=
  ∀ index, (reader.tool_blocks index).isSome = true ↔ index ∈ begun

theorem Opened.update {begun begun' : List Int} {reader : MessageReader} {index : Int}
    (h : Opened begun reader) (block : PartialCall)
    (hbegun : ∀ other, other ∈ begun' ↔ other = index ∨ other ∈ begun) :
    Opened begun'
      { reader with tool_blocks := Function.update reader.tool_blocks index (some block) } := by
  intro other
  dsimp only
  by_cases heq : other = index
  · rw [heq, Function.update_self, hbegun]
    simp
  · rw [Function.update_of_ne heq, h other, hbegun]
    simp [heq]

section

variable {α : Type} {loads : String → Option α} {empty : α} {model : String}

theorem anthropic_silent_iff (events : List MessageEvent) (reader : MessageReader)
    (begun : List Int) (hopened : Opened begun reader) :
    anthropic_silent begun events = true
      ↔ (read_parts (read_event loads empty) reader events).1 = [] := by
  induction events generalizing reader begun with
  | nil => simp [anthropic_silent, read_parts]
  | cons event events ih =>
    -- an event that passes nothing on and leaves the same blocks open
    have hplain : ∀ reader', Opened begun reader' →
        read_event loads empty reader event = ([], reader') →
        anthropic_silent begun (event :: events) = anthropic_silent begun events →
        (anthropic_silent begun (event :: events) = true
          ↔ (read_parts (read_event loads empty) reader (event :: events)).1 = []) := by
      intro reader' hreader' hread hsilent
      rw [hsilent, read_parts, hread, nil_append]
      exact ih reader' begun hreader'
    cases event with
    | message_start input_tokens =>
      cases input_tokens with
      | none => exact hplain reader hopened rfl rfl
      | some input_tokens =>
        exact hplain { reader with input_tokens := input_tokens.getD 0 } hopened rfl rfl
    | content_block_start index block =>
      cases block with
      | tool_use id name =>
        rw [anthropic_silent, read_parts]
        exact ih _ _ (hopened.update _ fun other => mem_cons)
      | other => exact hplain reader hopened rfl rfl
    | content_block_delta index delta =>
      cases delta with
      | text_delta text => simp [anthropic_silent, read_parts, read_event]
      | input_json_delta partial_json =>
        cases hblock : reader.tool_blocks index with
        | none => exact hplain reader hopened (by simp [read_event, hblock]) rfl
        | some block =>
          have hmem : index ∈ begun := (hopened index).mp (by rw [hblock]; rfl)
          have hupdated := hopened.update
            { block with arguments := block.arguments ++ partial_json }
            (fun other => (or_iff_right_of_imp (fun heq => heq ▸ hmem)).symm)
          exact hplain _ hupdated (by simp [read_event, hblock]) rfl
      | other => exact hplain reader hopened rfl rfl
    | content_block_stop index =>
      cases hblock : reader.tool_blocks index with
      | none =>
        have hmem : index ∉ begun := by
          intro hmem
          have hsome := (hopened index).mpr hmem
          rw [hblock] at hsome
          cases hsome
        exact hplain reader hopened (by simp [read_event, hblock])
          (by simp [anthropic_silent, hmem])
      | some block =>
        have hmem : index ∈ begun := (hopened index).mp (by rw [hblock]; rfl)
        simp [anthropic_silent, read_parts, read_event, hblock, hmem]
    | message_delta output_tokens =>
      cases output_tokens with
      | none => exact hplain reader hopened rfl rfl
      | some output_tokens =>
        exact hplain { reader with output_tokens := output_tokens.getD 0 } hopened rfl rfl
    | other => exact hplain reader hopened rfl rfl

end

/-! ## The streams -/

theorem read_attempt_items {σ χ ε : Type} {read : σ → χ → List ε × σ} {start : σ}
    {closing : σ → List ε} {sent : Transmission χ}
    (h : (read_attempt read start closing sent).failure.isSome = true) :
    (read_attempt read start closing sent).items = (read_parts read start sent.parts).1 := by
  have hfailure : sent.failure.isSome = true := h
  unfold read_attempt
  cases hsent : sent.failure with
  | none => simp [hsent] at hfailure
  | some failure => rfl

/-- The event of a provider as the pipeline sees it. -/
def ProviderEvent.seen {α : Type} (object : α → JsonObject) : ProviderEvent α → StreamEvent
  | .thinking content => .thinking content
  | .text content => .text content
  | .tool_call tool_call_id name arguments =>
    .tool_call { tool_call_id, name, arguments := object arguments }
  | .usage _ _ _ => .usage
  | .done => .done

/-- A round of the model that reads the whole stream does what it does on the last attempt
alone: the same entries and messages, and the same calls executed. -/
def RoundUndoubled {α : Type} (delivery : Delivery (ProviderEvent α) ApiException)
    (attempts : Nat → Attempt (ProviderEvent α) ApiException) : Prop :=
  delivery.raised = none →
    ∀ (object : α → JsonObject) (text : JsonText) (inputs : RoundInputs),
      run_round text { inputs with events := delivery.received.map (·.seen object) }
        = run_round text
            { inputs with
              events := (last_items attempts delivery.made).map (·.seen object) }

theorem DeliveredOnce.round {α : Type} {delivery : Delivery (ProviderEvent α) ApiException}
    {attempts : Nat → Attempt (ProviderEvent α) ApiException}
    (h : DeliveredOnce delivery attempts) : RoundUndoubled delivery attempts := by
  intro hraised object text inputs
  rw [h hraised]

section

variable {α : Type} {loads : String → Option α} {empty : α} {model : String}
variable {max_retries : Int}

theorem openai_stream_once_iff (sent : Nat → Transmission Chunk) :
    DeliveredOnce (openai_stream loads empty model max_retries sent)
        (fun i => openai_attempt loads empty model (sent i))
      ↔ SilentBefore RETRYABLE_STATUS_CODES max_retries
          (fun i => openai_attempt loads empty model (sent i))
          (fun i => openai_silent false (sent i).parts = true) := by
  refine retry_loop_once_iff fun i hfailed => ?_
  have hitems := read_attempt_items hfailed
  unfold openai_attempt
  rw [hitems]
  exact openai_silent_iff _ {} false (by simp)

theorem anthropic_stream_once_iff (sent : Nat → Transmission MessageEvent) :
    DeliveredOnce (anthropic_stream loads empty model max_retries sent)
        (fun i => anthropic_attempt loads empty model (sent i))
      ↔ SilentBefore RETRYABLE_STATUS_CODES max_retries
          (fun i => anthropic_attempt loads empty model (sent i))
          (fun i => anthropic_silent [] (sent i).parts = true) := by
  refine retry_loop_once_iff fun i hfailed => ?_
  have hitems := read_attempt_items hfailed
  unfold anthropic_attempt
  rw [hitems]
  refine anthropic_silent_iff _ {} [] ?_
  intro index
  simp

end

/-- The three retried streams are delivered once, and the pipeline's rounds see them once, exactly
when no attempt but the last comes to an event. -/
theorem delivered_once_iff {α ε : Type} (loads : String → Option α) (empty : α) (model : String)
    (max_retries : Int) (retryable_statuses : List Int) (chunks : Nat → Transmission Chunk)
    (events : Nat → Transmission MessageEvent) (func : Nat → Attempt ε ApiException) :
    (DeliveredOnce (openai_stream loads empty model max_retries chunks)
          (fun i => openai_attempt loads empty model (chunks i))
        ∧ RoundUndoubled (openai_stream loads empty model max_retries chunks)
          (fun i => openai_attempt loads empty model (chunks i))
      ↔ SilentBefore RETRYABLE_STATUS_CODES max_retries
          (fun i => openai_attempt loads empty model (chunks i))
          (fun i => openai_silent false (chunks i).parts = true))
    ∧ (DeliveredOnce (anthropic_stream loads empty model max_retries events)
          (fun i => anthropic_attempt loads empty model (events i))
        ∧ RoundUndoubled (anthropic_stream loads empty model max_retries events)
          (fun i => anthropic_attempt loads empty model (events i))
      ↔ SilentBefore RETRYABLE_STATUS_CODES max_retries
          (fun i => anthropic_attempt loads empty model (events i))
          (fun i => anthropic_silent [] (events i).parts = true))
    ∧ (DeliveredOnce (with_retry max_retries retryable_statuses func) func
      ↔ SilentBefore retryable_statuses max_retries func (fun i => (func i).items = [])) := by
  refine ⟨?_, ?_, ?_⟩
  · rw [← openai_stream_once_iff]
    exact and_iff_left_of_imp DeliveredOnce.round
  · rw [← anthropic_stream_once_iff]
    exact and_iff_left_of_imp DeliveredOnce.round
  · exact with_retry_once_iff fun i _ => Iff.rfl

/-! ## A text that is sent twice -/

def broken_off : Nat → Transmission Chunk
  | 0 =>
    { parts := [{ choices := [{ content := some "Hel" }] }]
      failure := some { status_code := some (some 503) } }
  | _ => { parts := [{ choices := [{ content := some "Hello", finish_reason := some "stop" }] }] }

theorem text_doubled :
    ¬ DeliveredOnce (openai_stream (fun _ => none) () "model" 3 broken_off)
        (fun i => openai_attempt (fun _ => none) () "model" (broken_off i))
    ∧ (collect_response
        ((openai_stream (fun _ => none) () "model" 3 broken_off).received.map
          (·.seen fun _ => [])) {}).1.text_chunks = ["Hel", "Hello"] := by
  have hrun : openai_stream (fun _ => none) () "model" 3 broken_off
      = { received := [.text "Hel", .text "Hello", .usage 0 0 "model", .done], made := 2 } := by
    rfl
  rw [hrun]
  refine ⟨?_, rfl⟩
  intro honce
  have hreceived := honce rfl
  have hlength := congrArg List.length hreceived
  revert hlength
  decide

end CodingAgentLoop.ProviderStreams
