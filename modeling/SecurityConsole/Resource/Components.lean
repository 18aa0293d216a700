/-
Components of the platform, agents and plugins alike: their released
versions, the packages of a version, and the pushes that bring a version
to the hosts.
-/
import SecurityConsole.Resource.Severity
import SecurityConsole.Resource.Endpoint

namespace SecurityConsole.Resource

open Schema

/-- The kind of a component. -/
def componentCategory : Schema := .oneOf ["agent", "plugin"]

/-- The format of a package. -/
def packageType : Schema := .oneOf ["rpm", "deb", "binary"]

/-- A component. -/
def component : Schema :=
  fields
    [need "id" u64, need "name" .text,
     need "category" componentCategory, fill "description" .text,
     fill "created_by" .text, need "created_at" .text,
     maybe "updated_at" .text, maybe "latest_version" .text,
     maybe "current_version" .text, maybe "status" .text,
     maybe "start_time" .text, maybe "version_count" i64,
     maybe "package_count" i64]

/-- A package of a version. -/
def componentPackage : Schema :=
  fields
    [need "id" u64, need "version_id" u64, fill "os" .text,
     need "arch" .text, need "pkg_type" packageType,
     fill "file_path" .text, need "file_name" .text,
     need "file_size" u64, fill "sha256" .text, fill "enabled" .bool,
     fill "uploaded_by" .text, maybe "uploaded_at" .text]

/-- A released version. -/
def componentVersion : Schema :=
  fields
    [need "id" u64, need "component_id" u64, need "version" .text,
     fill "changelog" .text, fill "is_latest" .bool,
     fill "created_by" .text, need "created_at" .text,
     fill "packages" (.list componentPackage)]

/-- A component with its versions. -/
def componentVersions : Schema :=
  fields
    [need "component" component,
     fill "versions" (.list componentVersion)]

/-- What a new component is made from. -/
def newComponent : Schema :=
  fields
    [need "name" .text, need "category" componentCategory,
     ask "description" .text]

/-- What a release is made from; `force` replaces an earlier release of
the same version. -/
def newVersion : Schema :=
  fields
    [need "version" .text, ask "changelog" .text,
     ask "set_latest" .bool, ask "force" .bool]

/-- How far a plugin is from what the agents run. -/
def pluginSyncState : Schema :=
  .oneOf ["ready", "missing_package", "outdated", "default_config"]

/-- A plugin's configuration and package, and whether they agree. -/
def pluginSyncStatus : Schema :=
  fields
    [need "name" .text, fill "type" .text, fill "config_version" .text,
     fill "config_sha256" .text, fill "config_enabled" .bool,
     fill "download_urls" (.list .text), fill "description" .text,
     fill "has_package" .bool, maybe "package_version" .text,
     maybe "package_arch" .text, need "status" pluginSyncState]

/-- A plugin and its version. -/
def pluginVersion : Schema :=
  fields [need "name" .text, need "version" .text]

/-- What a broadcast of plugin configurations reached. -/
def pluginBroadcast : Schema :=
  fields
    [need "plugin_count" i64, need "online_agent_count" i64,
     fill "plugins" (.list pluginVersion)]

/-- The state of a push. -/
def pushStatus : Schema :=
  .oneOf ["pending", "pushing", "success", "failed", "cancelled"]

/-- What a push did on one host. -/
def pushHost : Schema :=
  fields
    [need "id" u64, need "record_id" u64, need "host_id" .text,
     fill "hostname" .text, need "status" .text, fill "message" .text,
     maybe "pushed_at" .text, maybe "created_at" .text,
     maybe "updated_at" .text]

/-- A push; its progress is a percentage. -/
def pushRecord : Schema :=
  fields
    [need "id" u64, need "component_name" .text, need "version" .text,
     fill "target_type" .text, fill "target_hosts" (.list .text),
     need "status" pushStatus, fill "total_count" i64,
     fill "success_count" i64, fill "failed_count" i64,
     fill "failed_hosts" (.list .text), fill "progress" .real,
     fill "message" .text, fill "created_by" .text,
     need "created_at" .text, maybe "updated_at" .text,
     maybe "completed_at" .text, fill "push_hosts" (.list pushHost)]

/-- The path of one version of a component. -/
def versionPath (rest : String) : Template :=
  .slot "/components/" "id" u64
    (.slot "/versions/" "version_id" u64 (.tail rest))

/-- The endpoints of components. An update of the agents without host
ids goes to every host; what it answers differs between servers. -/
def components : List Endpoint :=
  [{ group := "components", action := "list", method := .get
     path := .tail "/components"
     answer := .value (.list component) },
   { group := "components", action := "get", method := .get
     path := .slot "/components/" "id" u64 (.tail "")
     answer := .value component },
   { group := "components", action := "create", method := .post
     path := .tail "/components"
     body := .argument "request" newComponent.fieldTable
     answer := .value component },
   { group := "components", action := "delete", method := .delete
     path := .slot "/components/" "id" u64 (.tail "") },
   { group := "components", action := "versions", method := .get
     path := .slot "/components/" "id" u64 (.tail "/versions")
     answer := .value componentVersions },
   { group := "components", action := "release_version", method := .post
     path := .slot "/components/" "id" u64 (.tail "/versions")
     body := .argument "request" newVersion.fieldTable
     answer := .value componentVersion },
   { group := "components", action := "version", method := .get
     path := versionPath ""
     answer := .value componentVersion },
   { group := "components", action := "set_latest_version", method := .put
     path := versionPath "/set-latest" },
   { group := "components", action := "delete_version", method := .delete
     path := versionPath "" },
   { group := "components", action := "delete_package", method := .delete
     path := .slot "/packages/" "id" u64 (.tail "") },
   { group := "components", action := "plugin_sync_status", method := .get
     path := .tail "/components/plugin-status"
     answer := .value (.list pluginSyncStatus) },
   { group := "components", action := "push_agent_update", method := .post
     path := .tail "/components/agent/push-update"
     body := .inline
       (Fields.ofList [ask "host_ids" (.list .text), ask "force" .bool])
     answer := .value .json },
   { group := "components", action := "broadcast_plugin_configs"
     method := .post
     path := .tail "/components/plugins/broadcast"
     answer := .value pluginBroadcast },
   { group := "components", action := "push_records", method := .get
     path := .tail "/components/push-records"
     query := Fields.ofList
       [ask "page" u32, ask "page_size" u32,
        ask "component_name" .text, ask "status" pushStatus]
     answer := .value (page pushRecord) },
   { group := "components", action := "push_record", method := .get
     path := .slot "/components/push-records/" "id" u64 (.tail "")
     answer := .value pushRecord }]

end SecurityConsole.Resource
