import ThreatModel.ValueSet.Basic

/-!
# Protocols

The wire protocol of a communication link, with the classes of protocols that rules look at.
-/

namespace ThreatModel

/-- Wire protocol of a communication link. -/
inductive Protocol where
  | unknownProtocol | http | https | ws | wss | reverseProxyWebProtocol
  | reverseProxyWebProtocolEncrypted | mqtt | jdbc | jdbcEncrypted | odbc | odbcEncrypted
  | sqlAccessProtocol | sqlAccessProtocolEncrypted | nosqlAccessProtocol
  | nosqlAccessProtocolEncrypted | binary | binaryEncrypted | text | textEncrypted | ssh
  | sshTunnel | smtp | smtpEncrypted | pop3 | pop3Encrypted | imap | imapEncrypted | ftp | ftps
  | sftp | scp | ldap | ldaps | jms | nfs | smb | smbEncrypted | localFileAccess | nrpe | xmpp
  | iiop | iiopEncrypted | jrmp | jrmpEncrypted | inProcessLibraryCall | containerSpawning
  deriving DecidableEq, Repr, Inhabited

namespace Protocol

/-- The word that stands for a value. -/
def word : Protocol → String
  | unknownProtocol => "unknown-protocol"
  | http => "http"
  | https => "https"
  | ws => "ws"
  | wss => "wss"
  | reverseProxyWebProtocol => "reverse-proxy-web-protocol"
  | reverseProxyWebProtocolEncrypted => "reverse-proxy-web-protocol-encrypted"
  | mqtt => "mqtt"
  | jdbc => "jdbc"
  | jdbcEncrypted => "jdbc-encrypted"
  | odbc => "odbc"
  | odbcEncrypted => "odbc-encrypted"
  | sqlAccessProtocol => "sql-access-protocol"
  | sqlAccessProtocolEncrypted => "sql-access-protocol-encrypted"
  | nosqlAccessProtocol => "nosql-access-protocol"
  | nosqlAccessProtocolEncrypted => "nosql-access-protocol-encrypted"
  | binary => "binary"
  | binaryEncrypted => "binary-encrypted"
  | text => "text"
  | textEncrypted => "text-encrypted"
  | ssh => "ssh"
  | sshTunnel => "ssh-tunnel"
  | smtp => "smtp"
  | smtpEncrypted => "smtp-encrypted"
  | pop3 => "pop3"
  | pop3Encrypted => "pop3-encrypted"
  | imap => "imap"
  | imapEncrypted => "imap-encrypted"
  | ftp => "ftp"
  | ftps => "ftps"
  | sftp => "sftp"
  | scp => "scp"
  | ldap => "ldap"
  | ldaps => "ldaps"
  | jms => "jms"
  | nfs => "nfs"
  | smb => "smb"
  | smbEncrypted => "smb-encrypted"
  | localFileAccess => "local-file-access"
  | nrpe => "nrpe"
  | xmpp => "xmpp"
  | iiop => "iiop"
  | iiopEncrypted => "iiop-encrypted"
  | jrmp => "jrmp"
  | jrmpEncrypted => "jrmp-encrypted"
  | inProcessLibraryCall => "in-process-library-call"
  | containerSpawning => "container-spawning"

/-- What a value means. -/
def description : Protocol → String
  | unknownProtocol => "Unknown protocol"
  | http => "HTTP protocol"
  | https => "HTTPS protocol (encrypted)"
  | ws => "WebSocket"
  | wss => "WebSocket but encrypted"
  | reverseProxyWebProtocol => "Protocols used by reverse proxies"
  | reverseProxyWebProtocolEncrypted => "Protocols used by reverse proxies but encrypted"
  | mqtt => "MQTT message protocol, encryption via TLS is optional"
  | jdbc => "Java Database Connectivity"
  | jdbcEncrypted => "Java Database Connectivity but encrypted"
  | odbc => "Open Database Connectivity"
  | odbcEncrypted => "Open Database Connectivity but encrypted"
  | sqlAccessProtocol => "SQL access protocol"
  | sqlAccessProtocolEncrypted => "SQL access protocol but encrypted"
  | nosqlAccessProtocol => "NOSQL access protocol"
  | nosqlAccessProtocolEncrypted => "NOSQL access protocol but encrypted"
  | binary => "Some other binary protocol"
  | binaryEncrypted => "Some other binary protocol, encrypted"
  | text => "Some other text protocol"
  | textEncrypted => "Some other text protocol, encrypted"
  | ssh => "Secure Shell to execute commands"
  | sshTunnel => "Secure Shell as a tunnel"
  | smtp => "Mail transfer protocol (sending)"
  | smtpEncrypted => "Mail transfer protocol (sending), encrypted"
  | pop3 => "POP 3 mail fetching"
  | pop3Encrypted => "POP 3 mail fetching, encrypted"
  | imap => "IMAP mail sync protocol"
  | imapEncrypted => "IMAP mail sync protocol, encrypted"
  | ftp => "File Transfer Protocol"
  | ftps => "FTP with TLS"
  | sftp => "FTP on SSH"
  | scp => "Secure Shell to copy files"
  | ldap => "Lightweight Directory Access Protocol, user directories"
  | ldaps => "Lightweight Directory Access Protocol, user directories on TLS"
  | jms => "Jakarta Messaging"
  | nfs => "Network File System"
  | smb => "Server Message Block"
  | smbEncrypted => "Server Message Block, but encrypted"
  | localFileAccess => "Data files are on the local system"
  | nrpe => "Nagios Remote Plugin Executor"
  | xmpp => "Extensible Messaging and Presence Protocol"
  | iiop => "Internet Inter-ORB Protocol"
  | iiopEncrypted => "Internet Inter-ORB Protocol, encrypted"
  | jrmp => "Java Remote Method Protocol"
  | jrmpEncrypted => "Java Remote Method Protocol, encrypted"
  | inProcessLibraryCall => "Call to local library"
  | containerSpawning => "Spawn a container"

/-- All values in their order. -/
def all : List Protocol :=
  [.unknownProtocol, .http, .https, .ws, .wss, .reverseProxyWebProtocol,
    .reverseProxyWebProtocolEncrypted, .mqtt, .jdbc, .jdbcEncrypted, .odbc, .odbcEncrypted,
    .sqlAccessProtocol, .sqlAccessProtocolEncrypted, .nosqlAccessProtocol,
    .nosqlAccessProtocolEncrypted, .binary, .binaryEncrypted, .text, .textEncrypted, .ssh,
    .sshTunnel, .smtp, .smtpEncrypted, .pop3, .pop3Encrypted, .imap, .imapEncrypted, .ftp, .ftps,
    .sftp, .scp, .ldap, .ldaps, .jms, .nfs, .smb, .smbEncrypted, .localFileAccess, .nrpe, .xmpp,
    .iiop, .iiopEncrypted, .jrmp, .jrmpEncrypted, .inProcessLibraryCall, .containerSpawning]

instance : ValueSet Protocol where
  typeName := "Protocol"
  all := all
  word := word
  description := description

theorem mem_all (v : Protocol) : v ∈ all := by cases v <;> simp [all]

/-- Stays within one process or machine. -/
def isProcessLocal : Protocol → Bool
  | .inProcessLibraryCall | .localFileAccess | .containerSpawning => true
  | _ => false

/-- Encrypts what it carries. -/
def isEncrypted : Protocol → Bool
  | .https | .wss | .jdbcEncrypted | .odbcEncrypted | .nosqlAccessProtocolEncrypted
  | .sqlAccessProtocolEncrypted | .binaryEncrypted | .textEncrypted | .ssh | .sshTunnel | .ftps
  | .sftp | .scp | .ldaps | .reverseProxyWebProtocolEncrypted | .iiopEncrypted | .jrmpEncrypted
  | .smbEncrypted | .smtpEncrypted | .pop3Encrypted | .imapEncrypted => true
  | _ => false

/-- Is made for access to databases. -/
def isDatabaseAccess : Protocol → Bool
  | .jdbc | .jdbcEncrypted | .odbc | .odbcEncrypted | .sqlAccessProtocol
  | .sqlAccessProtocolEncrypted | .nosqlAccessProtocol | .nosqlAccessProtocolEncrypted => true
  | _ => false

/-- May carry access to a database: HTTP and binary protocols count as well. -/
def isPossibleDatabaseAccess (p : Protocol) : Bool :=
  p.isDatabaseAccess ||
    match p with
    | .http | .https | .binary | .binaryEncrypted => true
    | _ => false

/-- May carry access to the web. -/
def isWebAccess : Protocol → Bool
  | .http | .https | .ws | .wss | .reverseProxyWebProtocol | .reverseProxyWebProtocolEncrypted => true
  | _ => false

end Protocol

end ThreatModel
