import TokenAudit.Json.Value
import TokenAudit.Rpc.Endpoints

/-! # Settings as JSON

Settings, endpoints and faults as they are shown to other programs. -/

namespace TokenAudit

/-- A fault as JSON. -/
def Fault.toJson (fault : Fault) : Json :=
  .obj
    [("error", .str fault.code.name), ("message", .str fault.message),
     ("display", .str fault.display), ("taxonomy", .str fault.family.name),
     ("retryable", .bool fault.isRetryable)]

/-- A policy as JSON. -/
def LinkPolicy.toJson (policy : LinkPolicy) : Json := .str policy.name

/-- Settings as JSON; the time of a call is shown in seconds. -/
def Settings.toJson (s : Settings) : Json :=
  .obj
    [("entropy_threshold", .float s.entropyThreshold), ("flag_penalty", .nat s.flagPenalty),
     ("opcode_trace_limit", .nat s.opcodeTraceLimit), ("lookback_blocks", .nat s.lookbackBlocks),
     ("chunk_size", .nat s.chunkSize), ("chunk_pacing_ms", .nat s.chunkPacing),
     ("call_timeout_s", .nat (s.callTimeout / 1000)), ("chunk_retries", .nat s.chunkRetries),
     ("max_concurrent_chunks", .nat s.maxConcurrentChunks), ("default_top_n", .nat s.topN),
     ("whale_threshold_pct", .float s.whaleThreshold),
     ("majority_threshold_pct", .float s.majorityThreshold),
     ("low_distribution_floor", .nat s.lowDistributionFloor),
     ("link_policy", s.linkPolicy.toJson), ("no_go_below", .nat s.noGoBelow),
     ("edd_below", .nat s.eddBelow)]

/-- Endpoints as JSON; the time of a request is shown in seconds. -/
def Endpoints.toJson (e : Endpoints) : Json :=
  .obj
    [("primary_url", .str e.primary), ("fallback_url", .option .str e.fallback),
     ("timeout_s", .nat (e.timeout / 1000)), ("max_retries", .nat e.attempts)]

end TokenAudit
