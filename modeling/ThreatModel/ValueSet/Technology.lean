import ThreatModel.ValueSet.Basic

/-!
# Technologies

The technology of a technical asset, with the classes of technologies that rules look at.
-/

namespace ThreatModel

/-- Technology of a technical asset. -/
inductive Technology where
  | unknownTechnology | clientSystem | browser | desktop | mobileApp | devOpsClient | webServer
  | webApplication | applicationServer | database | fileServer | localFileSystem | erp | cms
  | webServiceRest | webServiceSoap | ejb | searchIndex | searchEngine | serviceRegistry
  | reverseProxy | loadBalancer | buildPipeline | sourcecodeRepository | artifactRegistry
  | codeInspectionPlatform | monitoring | ldapServer | containerPlatform | batchProcessing
  | eventListener | identityProvider | identityStoreLdap | identityStoreDatabase | tool | cli
  | task | function | gateway | iotDevice | messageQueue | streamProcessing | serviceMesh
  | dataLake | bigDataPlatform | reportEngine | ai | mailServer | vault | hsm | waf | ids | ips
  | scheduler | mainframe | blockStorage | library
  deriving DecidableEq, Repr, Inhabited

namespace Technology

/-- The word that stands for a value. -/
def word : Technology → String
  | unknownTechnology => "unknown-technology"
  | clientSystem => "client-system"
  | browser => "browser"
  | desktop => "desktop"
  | mobileApp => "mobile-app"
  | devOpsClient => "devops-client"
  | webServer => "web-server"
  | webApplication => "web-application"
  | applicationServer => "application-server"
  | database => "database"
  | fileServer => "file-server"
  | localFileSystem => "local-file-system"
  | erp => "erp"
  | cms => "cms"
  | webServiceRest => "web-service-rest"
  | webServiceSoap => "web-service-soap"
  | ejb => "ejb"
  | searchIndex => "search-index"
  | searchEngine => "search-engine"
  | serviceRegistry => "service-registry"
  | reverseProxy => "reverse-proxy"
  | loadBalancer => "load-balancer"
  | buildPipeline => "build-pipeline"
  | sourcecodeRepository => "sourcecode-repository"
  | artifactRegistry => "artifact-registry"
  | codeInspectionPlatform => "code-inspection-platform"
  | monitoring => "monitoring"
  | ldapServer => "ldap-server"
  | containerPlatform => "container-platform"
  | batchProcessing => "batch-processing"
  | eventListener => "event-listener"
  | identityProvider => "identity-provider"
  | identityStoreLdap => "identity-store-ldap"
  | identityStoreDatabase => "identity-store-database"
  | tool => "tool"
  | cli => "cli"
  | task => "task"
  | function => "function"
  | gateway => "gateway"
  | iotDevice => "iot-device"
  | messageQueue => "message-queue"
  | streamProcessing => "stream-processing"
  | serviceMesh => "service-mesh"
  | dataLake => "data-lake"
  | bigDataPlatform => "big-data-platform"
  | reportEngine => "report-engine"
  | ai => "ai"
  | mailServer => "mail-server"
  | vault => "vault"
  | hsm => "hsm"
  | waf => "waf"
  | ids => "ids"
  | ips => "ips"
  | scheduler => "scheduler"
  | mainframe => "mainframe"
  | blockStorage => "block-storage"
  | library => "library"

/-- What a value means. -/
def description : Technology → String
  | unknownTechnology => "Unknown technology"
  | clientSystem => "A client system"
  | browser => "A web browser"
  | desktop => "A desktop system (or laptop)"
  | mobileApp => "A mobile app (smartphone, tablet)"
  | devOpsClient => "A client used for DevOps"
  | webServer => "A web server"
  | webApplication => "A web application"
  | applicationServer => "An application server (Apache Tomcat, ...)"
  | database => "A database"
  | fileServer => "A file server"
  | localFileSystem => "The local file system"
  | erp => "Enterprise-Resource-Planning"
  | cms => "Content Management System"
  | webServiceRest => "A REST web service (API)"
  | webServiceSoap => "A SOAP web service (API)"
  | ejb => "Jakarta Enterprise Beans fka Enterprise JavaBeans"
  | searchIndex => "The index database of a search engine"
  | searchEngine => "A search engine"
  | serviceRegistry => "A central place where data schemas can be found and distributed"
  | reverseProxy => "A proxy hiding internal infrastructure from callers"
  | loadBalancer => "A load balancer directing incoming requests to internal infrastructure"
  | buildPipeline => "A software build pipeline"
  | sourcecodeRepository => "Git or similar"
  | artifactRegistry => "A registry to store build artifacts"
  | codeInspectionPlatform => "(Static) code analysis"
  | monitoring => "A monitoring system (SIEM, logs)"
  | ldapServer => "A LDAP server"
  | containerPlatform => "A platform for hosting and executing containers"
  | batchProcessing => "A set of tools automatically processing data"
  | eventListener => "An event listener waiting to be triggered"
  | identityProvider => "An authentication provider"
  | identityStoreLdap => "Authentication data as LDAP"
  | identityStoreDatabase => "Authentication data as database"
  | tool => "A specific tool"
  | cli => "A command line tool"
  | task => "A specific task"
  | function => "A specific function (maybe RPC)"
  | gateway => "A gateway connecting two systems or trust boundaries"
  | iotDevice => "An IoT device"
  | messageQueue => "A message queue (like MQTT)"
  | streamProcessing => "Data stream processing"
  | serviceMesh => "Infrastructure for service-to-service communication"
  | dataLake => "A huge database"
  | bigDataPlatform => "Storage for big data"
  | reportEngine => "Software for report generation"
  | ai => "An artificial intelligence service"
  | mailServer => "A mail server"
  | vault => "Encryption and key management"
  | hsm => "Hardware security module"
  | waf => "Web application firewall"
  | ids => "Intrusion detection system"
  | ips => "Intrusion prevention system"
  | scheduler => "Scheduled tasks"
  | mainframe => "A central, big computer"
  | blockStorage => "SAN or similar central file storage"
  | library => "A software library"

/-- All values in their order. -/
def all : List Technology :=
  [.unknownTechnology, .clientSystem, .browser, .desktop, .mobileApp, .devOpsClient, .webServer,
    .webApplication, .applicationServer, .database, .fileServer, .localFileSystem, .erp, .cms,
    .webServiceRest, .webServiceSoap, .ejb, .searchIndex, .searchEngine, .serviceRegistry,
    .reverseProxy, .loadBalancer, .buildPipeline, .sourcecodeRepository, .artifactRegistry,
    .codeInspectionPlatform, .monitoring, .ldapServer, .containerPlatform, .batchProcessing,
    .eventListener, .identityProvider, .identityStoreLdap, .identityStoreDatabase, .tool, .cli,
    .task, .function, .gateway, .iotDevice, .messageQueue, .streamProcessing, .serviceMesh,
    .dataLake, .bigDataPlatform, .reportEngine, .ai, .mailServer, .vault, .hsm, .waf, .ids, .ips,
    .scheduler, .mainframe, .blockStorage, .library]

instance : ValueSet Technology where
  typeName := "Technology"
  all := all
  word := word
  description := description

theorem mem_all (v : Technology) : v ∈ all := by cases v <;> simp [all]

/-- Serves web pages to people. -/
def isWebApplication : Technology → Bool
  | .webServer | .webApplication | .applicationServer | .erp | .cms | .identityProvider
  | .reportEngine => true
  | _ => false

/-- Serves other programs over the web. -/
def isWebService : Technology → Bool
  | .webServiceRest | .webServiceSoap => true
  | _ => false

/-- Keeps or checks identities. -/
def isIdentityRelated : Technology → Bool
  | .identityProvider | .identityStoreLdap | .identityStoreDatabase => true
  | _ => false

/-- Keeps identities. -/
def isIdentityStore : Technology → Bool
  | .identityStoreLdap | .identityStoreDatabase => true
  | _ => false

/-- Is a security control itself. -/
def isSecurityControl : Technology → Bool
  | .vault | .hsm | .waf | .ids | .ips => true
  | _ => false

/-- May be talked to without protection. -/
def toleratesUnprotectedCommunication : Technology → Bool
  | .monitoring | .ids | .ips => true
  | _ => false

/-- May see data that it has no use for. -/
def toleratesUnnecessaryData : Technology → Bool
  | .monitoring | .ids | .ips => true
  | _ => false

/-- May sit next to highly rated assets. -/
def toleratesHighValueNeighbours : Technology → Bool
  | .monitoring | .ids | .ips | .loadBalancer | .reverseProxy => true
  | _ => false

/-- Is used by people directly. -/
def isClient : Technology → Bool
  | .clientSystem | .browser | .desktop | .mobileApp | .devOpsClient | .iotDevice => true
  | _ => false

/-- Can pass the identity of its user on to what it calls. -/
def propagatesIdentity : Technology → Bool
  | .clientSystem | .browser | .desktop | .mobileApp | .devOpsClient | .webServer
  | .webApplication | .applicationServer | .erp | .cms | .webServiceRest | .webServiceSoap
  | .ejb | .searchEngine | .reverseProxy | .loadBalancer | .identityProvider | .tool | .cli
  | .task | .function | .gateway | .iotDevice | .messageQueue | .serviceMesh | .reportEngine
  | .waf | .library => true
  | _ => false

/-- Is usually less protected than what it could reach. -/
def isLessProtected : Technology → Bool
  | .clientSystem | .browser | .desktop | .mobileApp | .devOpsClient | .webServer
  | .webApplication | .applicationServer | .cms | .webServiceRest | .webServiceSoap | .ejb
  | .buildPipeline | .sourcecodeRepository | .artifactRegistry | .codeInspectionPlatform
  | .monitoring | .iotDevice | .ai | .mailServer | .scheduler | .mainframe => true
  | _ => false

/-- Usually processes the requests of end users. -/
def processesEnduserRequests : Technology → Bool
  | .webServer | .webApplication | .applicationServer | .erp | .webServiceRest
  | .webServiceSoap | .ejb | .reportEngine => true
  | _ => false

/-- Usually stores the data of end users. -/
def storesEnduserData : Technology → Bool
  | .database | .erp | .fileServer | .localFileSystem | .blockStorage | .mailServer
  | .streamProcessing | .messageQueue => true
  | _ => false

/-- Belongs to the front end only. -/
def isFrontendOnly : Technology → Bool
  | .clientSystem | .browser | .desktop | .mobileApp | .devOpsClient | .cms | .reverseProxy
  | .waf | .loadBalancer | .gateway | .iotDevice => true
  | _ => false

/-- Belongs to the back end only. -/
def isBackendOnly : Technology → Bool
  | .database | .identityProvider | .identityStoreLdap | .identityStoreDatabase | .erp
  | .webServiceRest | .webServiceSoap | .ejb | .searchIndex | .searchEngine
  | .containerPlatform | .batchProcessing | .eventListener | .dataLake | .bigDataPlatform
  | .messageQueue | .streamProcessing | .serviceMesh | .vault | .hsm | .scheduler | .mainframe
  | .fileServer | .blockStorage => true
  | _ => false

/-- Takes part in building software. -/
def isDevelopmentRelevant : Technology → Bool
  | .buildPipeline | .sourcecodeRepository | .artifactRegistry | .codeInspectionPlatform
  | .devOpsClient => true
  | _ => false

/-- Passes requests on to other assets. -/
def isTrafficForwarding : Technology → Bool
  | .loadBalancer | .reverseProxy | .waf => true
  | _ => false

/-- Lives inside another asset. -/
def isEmbeddedComponent : Technology → Bool
  | .library => true
  | _ => false

end Technology

end ThreatModel
