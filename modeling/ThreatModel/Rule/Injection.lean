import ThreatModel.Catalogue.Injection
import ThreatModel.Rule.Finding

/-!
# Rules about injection

A service that answers queries is at risk from each in-scope asset that calls it in a way that carries
queries.
-/

namespace ThreatModel.BuiltinRule

/-- The findings at the in-scope callers of a service, `what` being the kind of risk and `against` what
the service is called in titles. -/
def injections (m : Model) (c : Category) (what against : String) (service : TechnicalAsset)
    (impact : Impact) (likelihood : Link → Likelihood) (carries : Link → Bool) : List Risk :=
  ((m.accesses service.id).filter fun a => carries a.link && !a.caller.outOfScope).map fun a =>
    c.finding (likelihood a.link) impact
        (what ++ " risk at " ++ a.caller.title ++ " against " ++ against ++ " " ++ service.title
          ++ " via " ++ a.link.title)
      |>.onAsset a.caller |>.onLink a.link |>.withBreach .probable [service.id]
      |>.identifiedBy [a.caller.id, service.id, a.link.id]

/-- LDAP servers. -/
def ldapInjection : ModelRule where
  category := .ldapInjection
  findings m := m.technicalAssets.values.flatMap fun server =>
    injections m .ldapInjection "LDAP-Injection" "LDAP server" server
      (if (server.rating m).isTopContent then .high else .medium)
      (fun l => if l.isDevOps then .unlikely else .likely)
      (fun l => [.ldap, .ldaps].contains l.protocol)

/-- File systems. -/
def pathTraversal : ModelRule where
  category := .pathTraversal
  findings m :=
    (m.technicalAssets.values.filter fun a =>
        [.fileServer, .localFileSystem].contains a.technology).flatMap fun files =>
      injections m .pathTraversal "Path-Traversal" "filesystem" files
        (if (files.rating m).isTopContent then .high else .medium)
        (fun l => if l.isDevOps then .likely else .veryLikely)
        (fun _ => true)

/-- Search engines and indexes. -/
def searchQueryInjection : ModelRule where
  category := .searchQueryInjection
  findings m :=
    (m.technicalAssets.values.filter fun a =>
        [.searchEngine, .searchIndex].contains a.technology).flatMap fun engine =>
      injections m .searchQueryInjection "Search Query Injection" "search engine server" engine
        (engine.rating m).contentImpact
        (fun l => if l.isDevOps then .likely else .veryLikely)
        (fun l => [.http, .https, .binary, .binaryEncrypted].contains l.protocol)

/-- Whether a link may carry database queries: a database protocol always, and a general one if it leads
to a database. -/
def carriesQueries (target : TechnicalAsset) (l : Link) : Bool :=
  l.protocol.isDatabaseAccess ||
    [.database, .identityStoreDatabase].contains target.technology &&
      l.protocol.isPossibleDatabaseAccess

/-- Databases. -/
def sqlNosqlInjection : ModelRule where
  category := .sqlNosqlInjection
  findings m := m.technicalAssets.values.flatMap fun database =>
    injections m .sqlNosqlInjection "SQL/NoSQL-Injection" "database" database
      (if (database.rating m).isTopContent then .high else .medium)
      (fun l => if l.isDevOps then .likely else .veryLikely)
      (carriesQueries database)

end ThreatModel.BuiltinRule
