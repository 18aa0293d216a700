/-
The figures of the start page. The server writes their names in camel
case.
-/
import SecurityConsole.Resource.Severity
import SecurityConsole.Resource.Endpoint

namespace SecurityConsole.Resource

open Schema

/-- How a part of the platform is doing. -/
def componentHealth : Schema := .oneOf ["healthy", "warning", "error"]

/-- How the parts of the platform are doing. -/
def serviceStatus : Schema :=
  fields
    [need "database" componentHealth,
     need "agentcenter" componentHealth,
     need "manager" componentHealth]

/-- The failed checks of one baseline. -/
def baselineRisk : Schema :=
  fields
    [need "name" .text, need "critical" i64, need "medium" i64,
     need "low" i64]

/-- The figures of the start page. -/
def dashboardStats : Schema :=
  fields
    [fill "hosts" i64, fill "clusters" i64, fill "containers" i64,
     fill "onlineAgents" i64, fill "offlineAgents" i64,
     maybe "onlineAgentsChange" .real,
     maybe "offlineAgentsChange" .real, fill "pendingAlerts" i64,
     fill "pendingVulnerabilities" i64, fill "vulnDbUpdateTime" .text,
     maybe "hotPatchCount" i64, fill "baselineFailCount" i64,
     fill "baselineHardeningPercent" .real,
     maybe "baselineRisks" (.list baselineRisk),
     maybe "avgCpuUsage" .real, maybe "avgMemoryUsage" .real,
     maybe "serviceStatus" serviceStatus]

/-- The endpoint of the start page. -/
def dashboard : List Endpoint :=
  [{ group := "dashboard", action := "stats", method := .get
     path := .tail "/dashboard/stats"
     answer := .value dashboardStats }]

end SecurityConsole.Resource
