import Switchboard.Catalog
import Switchboard.Service.Basic

/-!
# Builtin services

The tables of endpoints of the supported backends, and the catalog made of them. The cluster itself
is critical. Releases are recorded in the cluster, so they are looked up there unless they have
settings of their own.
-/

namespace Switchboard.Builtin

/-! ## Tables -/

def kubernetes : List Endpoint := [
  { tool := "kubernetes_list_namespaces"
    description := "List namespaces"
    path := "/api/v1/namespaces"
    query := ["labelSelector"]
    list := some "/items" },
  { tool := "kubernetes_list_nodes"
    description := "List cluster nodes"
    path := "/api/v1/nodes"
    query := ["labelSelector"]
    list := some "/items" },
  { tool := "kubernetes_list_pods"
    description := "List pods in a namespace"
    path := "/api/v1/namespaces/\x7bnamespace\x7d/pods"
    query := ["labelSelector", "fieldSelector"]
    list := some "/items" },
  { tool := "kubernetes_get_pod"
    description := "Get one pod"
    path := "/api/v1/namespaces/\x7bnamespace\x7d/pods/\x7bname\x7d" },
  { tool := "kubernetes_list_deployments"
    description := "List deployments in a namespace"
    path := "/apis/apps/v1/namespaces/\x7bnamespace\x7d/deployments"
    query := ["labelSelector"]
    list := some "/items" },
  { tool := "kubernetes_list_services"
    description := "List services in a namespace"
    path := "/api/v1/namespaces/\x7bnamespace\x7d/services"
    list := some "/items" },
  { tool := "kubernetes_list_events"
    description := "List events in a namespace"
    path := "/api/v1/namespaces/\x7bnamespace\x7d/events"
    query := ["fieldSelector"]
    list := some "/items" }]

def prometheus : List Endpoint := [
  { tool := "prometheus_query"
    description := "Evaluate an instant PromQL query"
    path := "/api/v1/query"
    query := ["query", "time"] },
  { tool := "prometheus_query_range"
    description := "Evaluate a PromQL query over a time range"
    path := "/api/v1/query_range"
    query := ["query", "start", "end", "step"] },
  { tool := "prometheus_list_targets"
    description := "List scrape targets"
    path := "/api/v1/targets"
    fixed := [("state", "active")]
    list := some "/data/activeTargets" },
  { tool := "prometheus_list_alerts"
    description := "List firing and pending alerts"
    path := "/api/v1/alerts"
    list := some "/data/alerts" },
  { tool := "prometheus_list_rules"
    description := "List recording and alerting rule groups"
    path := "/api/v1/rules"
    query := ["type"]
    list := some "/data/groups" },
  { tool := "prometheus_list_label_values"
    description := "List values of a label"
    path := "/api/v1/label/\x7blabel\x7d/values"
    list := some "/data" }]

def alertmanager : List Endpoint := [
  { tool := "alertmanager_list_alerts"
    description := "List alerts"
    path := "/api/v2/alerts"
    query := ["active", "silenced", "inhibited", "receiver"]
    list := some "" },
  { tool := "alertmanager_list_silences"
    description := "List silences"
    path := "/api/v2/silences"
    list := some "" },
  { tool := "alertmanager_list_receivers"
    description := "List receivers"
    path := "/api/v2/receivers"
    list := some "" },
  { tool := "alertmanager_get_status"
    description := "Cluster and config status"
    path := "/api/v2/status" }]

def elasticsearch : List Endpoint := [
  { tool := "elasticsearch_cluster_health"
    description := "Cluster health"
    path := "/_cluster/health" },
  { tool := "elasticsearch_list_indices"
    description := "List indices"
    path := "/_cat/indices"
    fixed := [("format", "json")]
    list := some "" },
  { tool := "elasticsearch_get_mapping"
    description := "Get the mapping of an index"
    path := "/\x7bindex\x7d/_mapping" },
  { tool := "elasticsearch_search"
    description := "Query-string search in an index"
    path := "/\x7bindex\x7d/_search"
    query := ["q", "size", "sort"]
    list := some "/hits/hits" }]

def kibana : List Endpoint := [
  { tool := "kibana_get_status"
    description := "Kibana status"
    path := "/api/status" },
  { tool := "kibana_list_spaces"
    description := "List spaces"
    path := "/api/spaces/space"
    list := some "" },
  { tool := "kibana_find_saved_objects"
    description := "Find saved objects"
    path := "/api/saved_objects/_find"
    query := ["type", "search"]
    fixed := [("per_page", "1000")]
    list := some "/saved_objects" },
  { tool := "kibana_list_data_views"
    description := "List data views"
    path := "/api/data_views"
    list := some "/data_view" }]

def grafana : List Endpoint := [
  { tool := "grafana_health"
    description := "Grafana health"
    path := "/api/health" },
  { tool := "grafana_list_dashboards"
    description := "Search dashboards"
    path := "/api/search"
    query := ["query", "tag"]
    fixed := [("type", "dash-db")]
    list := some "" },
  { tool := "grafana_get_dashboard"
    description := "Get a dashboard by uid"
    path := "/api/dashboards/uid/\x7buid\x7d" },
  { tool := "grafana_list_datasources"
    description := "List datasources"
    path := "/api/datasources"
    list := some "" },
  { tool := "grafana_list_folders"
    description := "List folders"
    path := "/api/folders"
    list := some "" }]

def jaeger : List Endpoint := [
  { tool := "jaeger_list_services"
    description := "List traced services"
    path := "/api/services"
    list := some "/data" },
  { tool := "jaeger_list_operations"
    description := "List operations of a service"
    path := "/api/services/\x7bservice\x7d/operations"
    list := some "/data" },
  { tool := "jaeger_find_traces"
    description := "Find traces"
    path := "/api/traces"
    query := ["service", "operation", "start", "end", "minDuration", "maxDuration", "tags"]
    list := some "/data" },
  { tool := "jaeger_get_trace"
    description := "Get a trace by id"
    path := "/api/traces/\x7btrace_id\x7d" }]

def opentelemetry : List Endpoint := [
  { tool := "opentelemetry_collector_health"
    description := "Collector health check extension status"
    path := "/" }]

def helm : List Endpoint := [
  { tool := "helm_list_releases"
    description := "List Helm release records in all namespaces"
    path := "/api/v1/secrets"
    fixed := [("labelSelector", "owner=helm")]
    list := some "/items" },
  { tool := "helm_list_namespace_releases"
    description := "List Helm release records in a namespace"
    path := "/api/v1/namespaces/\x7bnamespace\x7d/secrets"
    fixed := [("labelSelector", "owner=helm")]
    list := some "/items" }]

/-! ## Catalog -/

/-- The service that nothing works without. -/
def criticalName : String := "kubernetes"

/-- Names of all builtin services, in order. -/
def serviceNames : List String := [criticalName, "prometheus", "alertmanager", "elasticsearch",
  "kibana", "grafana", "jaeger", "opentelemetry", "helm", "utilities"]

/-- The table of a service. -/
def endpoints? : String → Option (List Endpoint)
  | "kubernetes" => some kubernetes
  | "prometheus" => some prometheus
  | "alertmanager" => some alertmanager
  | "elasticsearch" => some elasticsearch
  | "kibana" => some kibana
  | "grafana" => some grafana
  | "jaeger" => some jaeger
  | "opentelemetry" => some opentelemetry
  | "helm" => some helm
  | _ => none

/-- All endpoints of all tables. -/
def allEndpoints : List Endpoint :=
  kubernetes ++ prometheus ++ alertmanager ++ elasticsearch ++ kibana ++ grafana ++ jaeger ++
    opentelemetry ++ helm

private def entry (name : String) (table : List Endpoint) (fallback : Option String := none) :
    CatalogEntry Service :=
  ⟨name, .endpoints { name := name, endpoints := table, fallback := fallback }⟩

/-- All builtin services. -/
def catalog : Catalog Service where
  critical := entry criticalName kubernetes
  optional := [
    entry "prometheus" prometheus,
    entry "alertmanager" alertmanager,
    entry "elasticsearch" elasticsearch,
    entry "kibana" kibana,
    entry "grafana" grafana,
    entry "jaeger" jaeger,
    entry "opentelemetry" opentelemetry,
    entry "helm" helm (some criticalName),
    ⟨"utilities", .utilities false⟩]

end Switchboard.Builtin
