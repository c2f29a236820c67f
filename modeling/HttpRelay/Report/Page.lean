import HttpRelay.Bytes
import HttpRelay.Report.Metrics

/-!
# The metrics page

The metrics as a page of text, one metric to a line, and the response that carries it.
-/

namespace HttpRelay.Metrics

def line (name : String) (labels : List (String × String)) (value : Nat) : String :=
  let shown := labels.map fun (label, content) => label ++ "=\"" ++ content ++ "\""
  let labelled :=
    if labels.isEmpty then name else name ++ "\x7b" ++ ",".intercalate shown ++ "\x7d"
  labelled ++ " " ++ toString value ++ "\n"

/-- The line that tells the type of the metrics below it. -/
def typeLine (name type : String) : String :=
  "# TYPE " ++ name ++ " " ++ type ++ "\n"

/-- The lines of a metric without labels, if it has a value. -/
def linesOf (name type : String) (value : Option Nat) : String :=
  match value with
  | .none => ""
  | .some value => typeLine name type ++ line name [] value ++ "\n"

/-- The lines of the responses that were made up, if there were any. -/
def statusSection (metrics : Metrics) : String :=
  let name := "proxy_synthesized_responses_total"
  let lines := metrics.synthesized.eraseDups.map fun (status, kind) =>
    line name [("status", toString status.code), ("direction", kind.text)]
      (metrics.statusCount status kind)
  if lines.isEmpty then "" else typeLine name "counter" ++ String.join lines ++ "\n"

def page (metrics : Metrics) : String :=
  metrics.statusSection ++
    linesOf "proxy_target_connect_failures_total" "counter"
      (if metrics.connectFailures = 0 then .none else some metrics.connectFailures) ++
    linesOf "proxy_connection_handlers_active" "gauge" metrics.activeHandlers ++
    linesOf "proxy_connection_handlers_busy" "gauge" metrics.busyHandlers ++
    linesOf "proxy_exchange_duration_seconds_count" "counter"
      (if metrics.exchanges = 0 then .none else some metrics.exchanges)

def response (metrics : Metrics) : Bytes :=
  let body := Bytes.ofText metrics.page
  Bytes.ofText "HTTP/1.1 200 OK\r\ncontent-type: text/plain; version=0.0.4\r\ncontent-length: " ++
    Bytes.ofText (toString body.length) ++ Bytes.lineEnd ++ Bytes.lineEnd ++ body

end HttpRelay.Metrics
