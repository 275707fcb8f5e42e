import FlowClient.Config.Document
import FlowClient.Report

/-! Configurations as JSON, for tools that look into a client. -/

namespace FlowClient

def ClientSettings.report (client : ClientSettings) : Json :=
  .object [
    ("refresh_interval", .natural client.refreshInterval),
    ("retry_period", .natural client.retryPeriod),
    ("timeout", .natural client.timeout)]

def ServerEntry.report (entry : ServerEntry) (name : String) : Json :=
  .object [
    ("name", .string name),
    ("host", .string entry.host),
    ("port", .string entry.port),
    ("user", Json.ofOption .string entry.user),
    ("password", Json.ofOption .string entry.password),
    ("token", Json.ofOption .string entry.token),
    ("ssl", .bool entry.ssl),
    ("refresh_interval", Json.ofOption .natural entry.refreshInterval),
    ("suite_filter", Json.ofOption SuiteFilter.report entry.filter)]

def ConfigDraft.report (draft : ConfigDraft) : Json :=
  .object [
    ("client", draft.client.report),
    ("commands", Json.ofTable draft.commands),
    ("default_path", .string defaultConfigPath),
    ("server", Json.ofList (fun (name, entry) => entry.report name) draft.servers.entries)]

def SessionOptions.report (options : SessionOptions) : Json :=
  .object [
    ("name", .string options.name),
    ("host", .string options.host),
    ("port", .string options.port),
    ("long_name", .string options.longName),
    ("refresh_secs", Json.ofOption (fun period => .natural (period / 1000))
      options.refreshInterval),
    ("suite_filter", options.filter.report),
    ("registered_suites", Json.ofTexts options.filter.registered)]

def ConnectionSettings.report (settings : ConnectionSettings) : Json :=
  .object [
    ("address", .string settings.address),
    ("ssl", .bool settings.ssl),
    ("timeout_secs", .natural (settings.timeout / 1000)),
    ("retry_secs", .natural (settings.retryPeriod / 1000)),
    ("throw_on_error", .bool settings.throwOnError)]

def ServerSettings.report (server : ServerSettings) (client : ClientSettings) (key : String) :
    Json :=
  .object [
    ("key", .string key),
    ("name", .string server.name),
    ("credential", server.credential.toJson),
    ("refresh_interval", Json.ofOption .natural server.refreshInterval),
    ("options", (server.sessionOptions client).report),
    ("connection", (server.connectionSettings client).report)]

def Config.report (config : Config) : Json :=
  .object [
    ("client", config.client.report),
    ("commands", Json.ofTable config.commands),
    ("servers", Json.ofList (fun (key, server) => server.report config.client key)
      config.servers.entries)]

end FlowClient
