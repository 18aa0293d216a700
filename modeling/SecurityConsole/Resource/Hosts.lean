/-
Hosts: the machines and containers that agents watch, with their risk
figures, plugins and metrics.
-/
import SecurityConsole.Resource.Severity
import SecurityConsole.Resource.Endpoint

namespace SecurityConsole.Resource

open Schema

/-- Whether a host's agent answers. -/
def hostStatus : Schema := .oneOf ["online", "offline"]

/-- What a host runs on. -/
def runtimeType : Schema := .oneOf ["vm", "docker", "k8s"]

/-- The fields of a host. -/
def hostFields : Fields :=
  Fields.ofList
    [need "host_id" .text, need "hostname" .text,
     fill "os_family" .text, fill "os_version" .text,
     fill "kernel_version" .text, fill "arch" .text,
     fill "ipv4" (.list .text), need "status" hostStatus,
     maybe "last_heartbeat" .text, maybe "created_at" .text,
     maybe "updated_at" .text, maybe "baseline_score" .real,
     maybe "baseline_pass_rate" .real, fill "tags" (.list .text),
     maybe "is_container" .bool, maybe "container_id" .text,
     maybe "business_line" .text]

/-- A host. -/
def host : Schema := .record false hostFields

/-- A host with what only its own page shows. Disks and interfaces come
as JSON text. -/
def hostDetail : Schema :=
  join hostFields
    (Fields.ofList
      [maybe "device_model" .text, maybe "manufacturer" .text,
       maybe "cpu_info" .text, maybe "memory_size" .text,
       maybe "default_gateway" .text, fill "dns_servers" (.list .text),
       fill "public_ipv4" (.list .text), maybe "system_boot_time" .text,
       maybe "agent_start_time" .text, maybe "disk_info" .text,
       maybe "network_interfaces" .text])

/-- Counts of hosts by the state of their agent. -/
def hostStatusDistribution : Schema :=
  fields
    [fill "running" i64, fill "abnormal" i64, fill "offline" i64,
     fill "not_installed" i64, fill "uninstalled" i64]

/-- Counts of one kind of finding, in all and by severity. -/
def riskBucket : Schema :=
  join (Fields.ofList [fill "total" i64]) severityCountFields

/-- Counts of the findings on one host. -/
def hostRiskStatistics : Schema :=
  fields
    [fill "alerts" riskBucket, fill "vulnerabilities" riskBucket,
     fill "baseline" riskBucket]

/-- The state of a plugin on a host. -/
def pluginStatus : Schema :=
  .oneOf ["running", "stopped", "error", "not_installed", "updating"]

/-- A plugin on a host. -/
def hostPlugin : Schema :=
  fields
    [maybe "id" i64, need "name" .text, need "version" .text,
     need "status" pluginStatus, maybe "start_time" .text,
     fill "latest_version" .text, fill "need_update" .bool]

/-- One point of a series. -/
def timeSeriesPoint : Schema :=
  fields [need "timestamp" .text, need "value" .real]

/-- The last metrics of a host. -/
def latestMetrics : Schema :=
  fields
    [maybe "cpu_usage" .real, maybe "mem_usage" .real,
     maybe "disk_usage" .real, maybe "net_bytes_sent" .real,
     maybe "net_bytes_recv" .real, maybe "collected_at" .text]

/-- The metrics of a host over time. -/
def timeSeriesMetrics : Schema :=
  fields
    [fill "cpu_usage" (.list timeSeriesPoint),
     fill "mem_usage" (.list timeSeriesPoint),
     fill "disk_usage" (.list timeSeriesPoint)]

/-- The metrics of a host. -/
def hostMetrics : Schema :=
  fields
    [need "host_id" .text, maybe "latest" latestMetrics,
     maybe "time_series" timeSeriesMetrics, maybe "source" .text]

/-- The path of a host and what lies below it. -/
def hostPath (rest : String) : Template :=
  .slot "/hosts/" "host_id" .text (.tail rest)

/-- The endpoint that deletes hosts. -/
def deleteHost : Endpoint :=
  { group := "hosts", action := "delete", method := .delete
    path := hostPath "" }

/-- The endpoints of hosts. A restart of the agents without host ids
restarts all of them. -/
def hosts : List Endpoint :=
  [{ group := "hosts", action := "list", method := .get
     path := .tail "/hosts"
     query := Fields.ofList
       [ask "page" u32, ask "page_size" u32, ask "os_family" .text,
        ask "status" hostStatus, ask "business_line" .text,
        ask "search" .text, ask "runtime_type" runtimeType]
     answer := .value (page host) },
   { group := "hosts", action := "get", method := .get
     path := hostPath "", answer := .value hostDetail },
   { group := "hosts", action := "status_distribution", method := .get
     path := .tail "/hosts/status-distribution"
     answer := .value hostStatusDistribution },
   { group := "hosts", action := "risk_distribution", method := .get
     path := .tail "/hosts/risk-distribution"
     answer := .value severityCounts },
   { group := "hosts", action := "metrics", method := .get
     path := hostPath "/metrics"
     query := Fields.ofList [ask "start_time" .text, ask "end_time" .text]
     answer := .value hostMetrics },
   { group := "hosts", action := "update_tags", method := .put
     path := hostPath "/tags"
     body := .inline (Fields.ofList [fill "tags" (.list .text)]) },
   { group := "hosts", action := "update_business_line", method := .put
     path := hostPath "/business-line"
     body := .inline (Fields.ofList [need "business_line" .text]) },
   { group := "hosts", action := "risk_statistics", method := .get
     path := hostPath "/risk-statistics"
     answer := .value hostRiskStatistics },
   { group := "hosts", action := "plugins", method := .get
     path := hostPath "/plugins"
     answer := .value (.list hostPlugin) },
   deleteHost,
   { group := "hosts", action := "restart_agents", method := .post
     path := .tail "/hosts/restart-agent"
     body := .inline (Fields.ofList [fill "host_ids" (.list .text)]) }]

end SecurityConsole.Resource
