/-
All endpoints of the server, by the name of their group and their own,
and all shapes of records that are both read and written.
-/
import SecurityConsole.Resource.Alerts
import SecurityConsole.Resource.Assets
import SecurityConsole.Resource.BusinessLines
import SecurityConsole.Resource.Components
import SecurityConsole.Resource.Dashboard
import SecurityConsole.Resource.Fix
import SecurityConsole.Resource.Hosts
import SecurityConsole.Resource.Notifications
import SecurityConsole.Resource.Policies
import SecurityConsole.Resource.System
import SecurityConsole.Resource.Tasks
import SecurityConsole.Resource.Users

namespace SecurityConsole.Resource

open Schema

/-- All endpoints. -/
def endpoints : List Endpoint :=
  alerts ++ assets ++ auth ++ businessLines ++ components ++ dashboard ++
    fix ++ hosts ++ notifications ++ policies ++ policyGroups ++ rules ++
    systemConfig ++ tasks ++ users

/-- The full name of an endpoint. -/
def Endpoint.name (e : Endpoint) : String := e.group ++ "." ++ e.action

/-- The endpoint of a full name. -/
def endpoint? (name : String) : Option Endpoint :=
  endpoints.find? (·.name = name)

/-- The shapes that are both read and written. -/
def records : List Schema :=
  [severity, severityCounts, alertStatus, alertHost, alertRule, alert,
   alertStatistics, process, port, assetUser, software, container, app,
   netInterface, volume, kmod, service, cron, assetStatistics,
   businessLine, newBusinessLine, businessLineChange, componentCategory,
   packageType, component, componentPackage, componentVersion,
   componentVersions, newComponent, newVersion, pluginSyncState,
   pluginSyncStatus, pluginVersion, pluginBroadcast, pushStatus, pushHost,
   pushRecord, componentHealth, serviceStatus, baselineRisk,
   dashboardStats, fixableItem, fixTaskStatus, fixTask, fixResultStatus,
   fixResult, fixTaskHostStatus, hostStatus, runtimeType, host,
   hostDetail, hostStatusDistribution, riskBucket, hostRiskStatistics,
   pluginStatus, hostPlugin, timeSeriesPoint, latestMetrics,
   timeSeriesMetrics, hostMetrics, notifyCategory, channelType,
   notifyScope, channelConfig, scopeValue, notification, targetKind,
   osRequirement, rule, policy, passFail, severityPassFail,
   policyStatistics, policyGroup, policyGroupStatistics, newPolicyGroup,
   policyGroupChange, newRule, ruleChange, kubernetesImageConfig,
   taskType, taskStatus, targetType, targetConfig, scanTask, userRole,
   userStatus, user, SiteConfig.schema, SessionUser.schema,
   Credentials.schema]

end SecurityConsole.Resource
