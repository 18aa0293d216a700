/-
Inventories that the agents collect on each host: processes, ports,
accounts, software, containers, applications, network interfaces,
volumes, kernel modules, services and scheduled jobs.

Every listing takes the same filters. The host and the paging apply to
all of them, each other filter only to the listing it belongs to.
-/
import SecurityConsole.Resource.Severity
import SecurityConsole.Resource.Endpoint

namespace SecurityConsole.Resource

open Schema

/-- A running process. -/
def process : Schema :=
  fields
    [need "id" .text, need "host_id" .text, need "pid" .text,
     fill "ppid" .text, fill "cmdline" .text, fill "exe" .text,
     maybe "exe_hash" .text, maybe "container_id" .text,
     fill "uid" .text, fill "gid" .text, maybe "username" .text,
     maybe "groupname" .text, need "collected_at" .text]

/-- A port that something listens on. -/
def port : Schema :=
  fields
    [need "id" .text, need "host_id" .text, need "protocol" .text,
     need "port" u16, maybe "state" .text, maybe "pid" .text,
     maybe "process_name" .text, maybe "container_id" .text,
     need "collected_at" .text]

/-- An account on the host. -/
def assetUser : Schema :=
  fields
    [need "id" .text, need "host_id" .text, need "username" .text,
     fill "uid" .text, fill "gid" .text, maybe "groupname" .text,
     fill "home_dir" .text, fill "shell" .text, maybe "comment" .text,
     fill "has_password" .bool, need "collected_at" .text]

/-- An installed package. -/
def software : Schema :=
  fields
    [need "id" .text, need "host_id" .text, need "name" .text,
     maybe "version" .text, maybe "architecture" .text,
     need "package_type" .text, maybe "vendor" .text,
     maybe "install_time" .text, need "collected_at" .text]

/-- A container. -/
def container : Schema :=
  fields
    [need "id" .text, need "host_id" .text, need "container_id" .text,
     maybe "container_name" .text, maybe "image" .text,
     maybe "image_id" .text, maybe "runtime" .text,
     maybe "status" .text, maybe "created_at" .text,
     need "collected_at" .text]

/-- An application found on the host. -/
def app : Schema :=
  fields
    [need "id" .text, need "host_id" .text, need "app_type" .text,
     maybe "app_name" .text, maybe "version" .text, maybe "port" u16,
     maybe "process_id" .text, maybe "config_path" .text,
     maybe "data_path" .text, need "collected_at" .text]

/-- A network interface. -/
def netInterface : Schema :=
  fields
    [need "id" .text, need "host_id" .text,
     need "interface_name" .text, maybe "mac_address" .text,
     fill "ipv4_addresses" (.list .text),
     fill "ipv6_addresses" (.list .text), maybe "mtu" u32,
     maybe "state" .text, need "collected_at" .text]

/-- A mounted volume; sizes are in bytes. -/
def volume : Schema :=
  fields
    [need "id" .text, need "host_id" .text, maybe "device" .text,
     maybe "mount_point" .text, maybe "file_system" .text,
     maybe "total_size" u64, maybe "used_size" u64,
     maybe "available_size" u64, maybe "usage_percent" .real,
     need "collected_at" .text]

/-- A kernel module. -/
def kmod : Schema :=
  fields
    [need "id" .text, need "host_id" .text, need "module_name" .text,
     maybe "size" u64, maybe "used_by" u32, maybe "state" .text,
     need "collected_at" .text]

/-- A service. -/
def service : Schema :=
  fields
    [need "id" .text, need "host_id" .text, need "service_name" .text,
     maybe "service_type" .text, maybe "status" .text,
     maybe "enabled" .bool, maybe "description" .text,
     need "collected_at" .text]

/-- A scheduled job. -/
def cron : Schema :=
  fields
    [need "id" .text, need "host_id" .text, need "user" .text,
     need "schedule" .text, need "command" .text,
     maybe "cron_type" .text, maybe "enabled" .bool,
     need "collected_at" .text]

/-- Totals of the inventories of one host. -/
def assetStatistics : Schema :=
  fields
    [need "processes" i64, need "ports" i64, need "users" i64,
     need "containers" i64, need "packages" i64, need "services" i64,
     need "cron" i64]

/-- The filters of a listing. -/
def assetQuery : Fields :=
  Fields.ofList
    [ask "host_id" .text, ask "page" u32, ask "page_size" u32,
     ask "protocol" .text, ask "package_type" .text,
     ask "runtime" .text, ask "status" .text, ask "app_type" .text,
     ask "service_type" .text, ask "user" .text, ask "cron_type" .text]

/-- The listing at a path of items of a shape. -/
def assetListing (action path : String) (item : Schema) : Endpoint :=
  { group := "assets", action := action, method := .get
    path := .tail path, query := assetQuery
    answer := .value (page item) }

/-- The endpoints of the inventories. -/
def assets : List Endpoint :=
  [assetListing "processes" "/assets/processes" process,
   assetListing "ports" "/assets/ports" port,
   assetListing "users" "/assets/users" assetUser,
   assetListing "software" "/assets/software" software,
   assetListing "containers" "/assets/containers" container,
   assetListing "apps" "/assets/apps" app,
   assetListing "network_interfaces" "/assets/network-interfaces"
     netInterface,
   assetListing "volumes" "/assets/volumes" volume,
   assetListing "kmods" "/assets/kmods" kmod,
   assetListing "services" "/assets/services" service,
   assetListing "crons" "/assets/crons" cron]

end SecurityConsole.Resource
