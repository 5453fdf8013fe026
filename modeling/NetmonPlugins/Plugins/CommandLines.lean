import NetmonPlugins.Plugins.Activemq.Impl
import NetmonPlugins.Plugins.Apache.Impl
import NetmonPlugins.Plugins.Ceph.Impl
import NetmonPlugins.Plugins.Connectivity.Impl
import NetmonPlugins.Plugins.Consul.Impl
import NetmonPlugins.Plugins.Couchbase.Impl
import NetmonPlugins.Plugins.Dhcp.Impl
import NetmonPlugins.Plugins.Dns.Impl
import NetmonPlugins.Plugins.Docker.Impl
import NetmonPlugins.Plugins.Etcd.Impl
import NetmonPlugins.Plugins.FileCount.Impl
import NetmonPlugins.Plugins.Fping.Impl
import NetmonPlugins.Plugins.Ftp.Impl
import NetmonPlugins.Plugins.Grafana.Impl
import NetmonPlugins.Plugins.Http.Impl
import NetmonPlugins.Plugins.Influxdb.Impl
import NetmonPlugins.Plugins.Ircd.Impl
import NetmonPlugins.Plugins.Jabber.Impl
import NetmonPlugins.Plugins.Kubernetes.Impl
import NetmonPlugins.Plugins.Load.Impl
import NetmonPlugins.Plugins.Log.Impl
import NetmonPlugins.Plugins.Memcached.Impl
import NetmonPlugins.Plugins.Nntp.Impl
import NetmonPlugins.Plugins.Nomad.Impl
import NetmonPlugins.Plugins.Ntp.Impl
import NetmonPlugins.Plugins.NtpPeer.Impl
import NetmonPlugins.Plugins.NtpTime.Impl
import NetmonPlugins.Plugins.Nwstat.Impl
import NetmonPlugins.Plugins.Overcr.Impl
import NetmonPlugins.Plugins.Phpfpm.Impl
import NetmonPlugins.Plugins.Prometheus.Impl
import NetmonPlugins.Plugins.Rabbitmq.Impl
import NetmonPlugins.Plugins.Redis.Impl
import NetmonPlugins.Plugins.Sensors.Impl
import NetmonPlugins.Plugins.Sip.Impl
import NetmonPlugins.Plugins.Smtp.Impl
import NetmonPlugins.Plugins.Solr.Impl
import NetmonPlugins.Plugins.Ssh.Impl
import NetmonPlugins.Plugins.SslValidity.Impl
import NetmonPlugins.Plugins.Swap.Impl
import NetmonPlugins.Plugins.Telnet.Impl
import NetmonPlugins.Plugins.Time.Impl
import NetmonPlugins.Plugins.Udp.Impl
import NetmonPlugins.Plugins.Users.Impl
import NetmonPlugins.Plugins.Vault.Impl
import NetmonPlugins.Plugins.Zookeeper.Impl

/-!
This module contains the command lines of the checks whose options are each about a part of the
configuration, and determines what a configuration is that one of them reads.
-/

namespace NetmonPlugins

open CommandLine

inductive Tool where
  | activemq
  | apache
  | cassandra
  | ceph
  | consul
  | couchbase
  | dhcp
  | dig
  | dns
  | docker
  | etcd
  | fileCount
  | fping
  | ftp
  | grafana
  | http
  | influxdb
  | ircd
  | jabber
  | kafka
  | kubernetes
  | load
  | log
  | memcached
  | mongodb
  | nntp
  | nomad
  | ntp
  | ntpPeer
  | ntpTime
  | nwstat
  | overcr
  | phpfpm
  | prometheus
  | rabbitmq
  | redis
  | rpc
  | sensors
  | sip
  | smtp
  | solr
  | ssh
  | sslValidity
  | swap
  | telnet
  | time
  | udp
  | users
  | vault
  | zookeeper

/-- What a check makes of its arguments, and the parts it makes of it. -/
structure Parser where
  Config : Type
  init : Config
  settings : List (Setting Config)
  parseArguments : List Bytes → Except Stop Config

namespace Tool

def parser : Tool → Parser
  | .activemq => ⟨ActivemqPlugin.Config, {}, ActivemqPlugin.settings, ActivemqPlugin.parseArguments⟩
  | .apache => ⟨ApachePlugin.Config, {}, ApachePlugin.settings, ApachePlugin.parseArguments⟩
  | .cassandra =>
    ⟨CassandraPlugin.Config, {}, CassandraPlugin.settings, CassandraPlugin.parseArguments⟩
  | .ceph => ⟨CephPlugin.Config, {}, CephPlugin.settings, CephPlugin.parseArguments⟩
  | .consul => ⟨ConsulPlugin.Config, {}, ConsulPlugin.settings, ConsulPlugin.parseArguments⟩
  | .couchbase =>
    ⟨CouchbasePlugin.Config, {}, CouchbasePlugin.settings, CouchbasePlugin.parseArguments⟩
  | .dhcp => ⟨DhcpPlugin.Config, {}, DhcpPlugin.settings, DhcpPlugin.parseArguments⟩
  | .dig => ⟨DigPlugin.Config, {}, DigPlugin.settings, DigPlugin.parseArguments⟩
  | .dns => ⟨DnsPlugin.Config, {}, DnsPlugin.settings, DnsPlugin.parseArguments⟩
  | .docker => ⟨DockerPlugin.Config, {}, DockerPlugin.settings, DockerPlugin.parseArguments⟩
  | .etcd => ⟨EtcdPlugin.Config, {}, EtcdPlugin.settings, EtcdPlugin.parseArguments⟩
  | .fileCount =>
    ⟨FileCountPlugin.Config, {}, FileCountPlugin.settings, FileCountPlugin.parseArguments⟩
  | .fping => ⟨FpingPlugin.Config, {}, FpingPlugin.settings, FpingPlugin.parseArguments⟩
  | .ftp => ⟨FtpPlugin.Config, {}, FtpPlugin.settings, FtpPlugin.parseArguments⟩
  | .grafana => ⟨GrafanaPlugin.Config, {}, GrafanaPlugin.settings, GrafanaPlugin.parseArguments⟩
  | .http => ⟨HttpPlugin.Config, {}, HttpPlugin.settings, HttpPlugin.parseArguments⟩
  | .influxdb => ⟨InfluxdbPlugin.Config, {}, InfluxdbPlugin.settings, InfluxdbPlugin.parseArguments⟩
  | .ircd => ⟨IrcdPlugin.Config, {}, IrcdPlugin.settings, IrcdPlugin.parseArguments⟩
  | .jabber => ⟨JabberPlugin.Config, {}, JabberPlugin.settings, JabberPlugin.parseArguments⟩
  | .kafka => ⟨KafkaPlugin.Config, {}, KafkaPlugin.settings, KafkaPlugin.parseArguments⟩
  | .kubernetes =>
    ⟨KubernetesPlugin.Config, {}, KubernetesPlugin.settings, KubernetesPlugin.parseArguments⟩
  | .load => ⟨LoadPlugin.Config, {}, LoadPlugin.settings, LoadPlugin.parseArguments⟩
  | .log => ⟨LogPlugin.Config, {}, LogPlugin.settings, LogPlugin.parseArguments⟩
  | .memcached =>
    ⟨MemcachedPlugin.Config, {}, MemcachedPlugin.settings, MemcachedPlugin.parseArguments⟩
  | .mongodb => ⟨MongodbPlugin.Config, {}, MongodbPlugin.settings, MongodbPlugin.parseArguments⟩
  | .nntp => ⟨NntpPlugin.Config, {}, NntpPlugin.settings, NntpPlugin.parseArguments⟩
  | .nomad => ⟨NomadPlugin.Config, {}, NomadPlugin.settings, NomadPlugin.parseArguments⟩
  | .ntp => ⟨NtpPlugin.Config, {}, NtpPlugin.settings, NtpPlugin.parseArguments⟩
  | .ntpPeer => ⟨NtpPeerPlugin.Config, {}, NtpPeerPlugin.settings, NtpPeerPlugin.parseArguments⟩
  | .ntpTime => ⟨NtpTimePlugin.Config, {}, NtpTimePlugin.settings, NtpTimePlugin.parseArguments⟩
  | .nwstat => ⟨NwstatPlugin.Config, {}, NwstatPlugin.settings, NwstatPlugin.parseArguments⟩
  | .overcr => ⟨OvercrPlugin.Config, {}, OvercrPlugin.settings, OvercrPlugin.parseArguments⟩
  | .phpfpm => ⟨PhpfpmPlugin.Config, {}, PhpfpmPlugin.settings, PhpfpmPlugin.parseArguments⟩
  | .prometheus =>
    ⟨PrometheusPlugin.Config, {}, PrometheusPlugin.settings, PrometheusPlugin.parseArguments⟩
  | .rabbitmq => ⟨RabbitmqPlugin.Config, {}, RabbitmqPlugin.settings, RabbitmqPlugin.parseArguments⟩
  | .redis => ⟨RedisPlugin.Config, {}, RedisPlugin.settings, RedisPlugin.parseArguments⟩
  | .rpc => ⟨RpcPlugin.Config, {}, RpcPlugin.settings, RpcPlugin.parseArguments⟩
  | .sensors => ⟨SensorsPlugin.Config, {}, SensorsPlugin.settings, SensorsPlugin.parseArguments⟩
  | .sip => ⟨SipPlugin.Config, {}, SipPlugin.settings, SipPlugin.parseArguments⟩
  | .smtp => ⟨SmtpPlugin.Config, {}, SmtpPlugin.settings, SmtpPlugin.parseArguments⟩
  | .solr => ⟨SolrPlugin.Config, {}, SolrPlugin.settings, SolrPlugin.parseArguments⟩
  | .ssh => ⟨SshPlugin.Config, {}, SshPlugin.settings, SshPlugin.parseArguments⟩
  | .sslValidity =>
    ⟨SslValidityPlugin.Config, {}, SslValidityPlugin.settings, SslValidityPlugin.parseArguments⟩
  | .swap => ⟨SwapPlugin.Config, {}, SwapPlugin.settings, SwapPlugin.parseArguments⟩
  | .telnet => ⟨TelnetPlugin.Config, {}, TelnetPlugin.settings, TelnetPlugin.parseArguments⟩
  | .time => ⟨TimePlugin.Config, {}, TimePlugin.settings, TimePlugin.parseArguments⟩
  | .udp => ⟨UdpPlugin.Config, {}, UdpPlugin.settings, UdpPlugin.parseArguments⟩
  | .users => ⟨UsersPlugin.Config, {}, UsersPlugin.settings, UsersPlugin.parseArguments⟩
  | .vault => ⟨VaultPlugin.Config, {}, VaultPlugin.settings, VaultPlugin.parseArguments⟩
  | .zookeeper =>
    ⟨ZookeeperPlugin.Config, {}, ZookeeperPlugin.settings, ZookeeperPlugin.parseArguments⟩

/-- The arguments as the loop over `argv` takes them, each option with its value. -/
def entries (tool : Tool) (args : List Bytes) : List (Bytes × Option Bytes) :=
  CommandLine.entries (branchOf tool.parser.settings) args

/-- A percentage and a number of bytes are two members, which one option writes. -/
def lowSwap : SwapPlugin.Config where
  warningPercent := 20
  warningFree := 100

end Tool
end NetmonPlugins
