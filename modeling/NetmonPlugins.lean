import NetmonPlugins.Cxx.Bytes
import NetmonPlugins.Cxx.Double
import NetmonPlugins.Cxx.Format
import NetmonPlugins.Cxx.Numeric
import NetmonPlugins.Rfc.Base64
import NetmonPlugins.Common.Plugin
import NetmonPlugins.Common.Socket
import NetmonPlugins.Common.HttpApi.Impl
import NetmonPlugins.Common.HttpApi.Request
import NetmonPlugins.Rfc.Http
import NetmonPlugins.Common.HttpApi.Response
import NetmonPlugins.Common.Icmp.Impl
import NetmonPlugins.Common.Icmp.Lemmas
import NetmonPlugins.Common.Icmp.Run
import NetmonPlugins.Common.JsonUtils.Impl
import NetmonPlugins.Common.Occurrences
import NetmonPlugins.Plugins.Consul.Impl
import NetmonPlugins.Plugins.Consul.Lemmas
import NetmonPlugins.Plugins.Dhcp.Impl
import NetmonPlugins.Plugins.Disk.Impl
import NetmonPlugins.Plugins.Disk.Order
import NetmonPlugins.Plugins.Docker.Impl
import NetmonPlugins.Plugins.EchoAccounting
import NetmonPlugins.Plugins.Http.Impl
import NetmonPlugins.Plugins.HttpStatus
import NetmonPlugins.Plugins.Negate.Arguments
import NetmonPlugins.Plugins.Negate.CommandLine
import NetmonPlugins.Plugins.Procs.Absence
import NetmonPlugins.Plugins.Silence
import NetmonPlugins.Plugins.SslValidity.Expiry
import NetmonPlugins.Common.CommandLine
import NetmonPlugins.Common.LineProtocol
import NetmonPlugins.Common.Output
import NetmonPlugins.Cxx.Strtod
import NetmonPlugins.Net.Datagram
import NetmonPlugins.Net.Framing
import NetmonPlugins.Plugins.Activemq.Impl
import NetmonPlugins.Plugins.ClientFirst
import NetmonPlugins.Plugins.DataSource
import NetmonPlugins.Plugins.ExitContract
import NetmonPlugins.Plugins.Ftp.Impl
import NetmonPlugins.Plugins.Ftp.Login
import NetmonPlugins.Plugins.Imap.Impl
import NetmonPlugins.Plugins.LineChecks.Login
import NetmonPlugins.Plugins.LineChecks.Segmentation
import NetmonPlugins.Plugins.OutputProtocol
import NetmonPlugins.Plugins.Redis.Auth
import NetmonPlugins.Plugins.Redis.Errors
import NetmonPlugins.Plugins.Redis.Framing
import NetmonPlugins.Common.HttpApi.Receive
import NetmonPlugins.Common.JsonUtils.States
import NetmonPlugins.Common.JsonUtils.Search
import NetmonPlugins.Common.JsonUtils.Flat
import NetmonPlugins.Common.JsonUtils.Count
import NetmonPlugins.Plugins.ElementCounts
import NetmonPlugins.Plugins.Influxdb.Databases
import NetmonPlugins.Common.JsonUtils.Typed
import NetmonPlugins.Common.JsonUtils.Front
import NetmonPlugins.Plugins.Rabbitmq.Overview
import NetmonPlugins.Plugins.Kubernetes.Items
import NetmonPlugins.Common.JsonUtils.TextOrder
import NetmonPlugins.Common.NtpClient.Impl
import NetmonPlugins.Common.NtpClient.Run
import NetmonPlugins.Common.NtpClient.Authenticity
import NetmonPlugins.Common.Perfdata
import NetmonPlugins.Common.Settings
import NetmonPlugins.Cxx.Regex.Lemmas
import NetmonPlugins.Net.Mailbox
import NetmonPlugins.Rfc.Json
import NetmonPlugins.Plugins.CapacityThresholds
import NetmonPlugins.Plugins.Ceph.Impl
import NetmonPlugins.Plugins.Elasticsearch.Impl
import NetmonPlugins.Plugins.FailClosed
import NetmonPlugins.Plugins.Http.Expectation
import NetmonPlugins.Plugins.Secrecy
import NetmonPlugins.Plugins.Tcp.Resolver
import NetmonPlugins.Plugins.Unsynchronised
import NetmonPlugins.Plugins.Vault.Impl
import NetmonPlugins.Plugins.CountThresholds
import NetmonPlugins.Plugins.Influxdb.Ping
import NetmonPlugins.Plugins.FileCount.Pattern
import NetmonPlugins.Plugins.Memcached.HitRatio
import NetmonPlugins.Plugins.Memcached.Framing
import NetmonPlugins.Plugins.StatusPage
import NetmonPlugins.Plugins.Apache.Impl
import NetmonPlugins.Plugins.Phpfpm.Impl
import NetmonPlugins.Plugins.TextCounters
import NetmonPlugins.Plugins.Redis.Info
import NetmonPlugins.Plugins.Leader
import NetmonPlugins.Plugins.Consul.Health
import NetmonPlugins.Plugins.ReplyCodes
import NetmonPlugins.Plugins.Imap.LoginLine
import NetmonPlugins.Cxx.Regex.Anchored
import NetmonPlugins.Plugins.Prometheus.Sample
import NetmonPlugins.Cxx.Integer
import NetmonPlugins.Common.Severity
import NetmonPlugins.Plugins.Load.Impl
import NetmonPlugins.Plugins.FileAge.Impl
import NetmonPlugins.Plugins.FileSize.Impl
import NetmonPlugins.Plugins.UnitThresholds
import NetmonPlugins.Plugins.Disk.Space
import NetmonPlugins.Plugins.Procs.Ranges
import NetmonPlugins.Plugins.SeverityLadders
import NetmonPlugins.Common.Icmp.Statistics
import NetmonPlugins.Plugins.Ping.Exchange
import NetmonPlugins.Plugins.PingAgreement
import NetmonPlugins.Posix.Volume
import NetmonPlugins.Plugins.FileCount.Unreadable
import NetmonPlugins.Plugins.FileCount.Links
import NetmonPlugins.Plugins.Ping.Arguments
import NetmonPlugins.Plugins.PortOptions
import NetmonPlugins.Common.NtpClient.Offset
import NetmonPlugins.Plugins.Sensors.Millidegrees
import NetmonPlugins.Rfc.Message
import NetmonPlugins.Plugins.Requests
import NetmonPlugins.Net.Script
import NetmonPlugins.Plugins.Conversations.Scripts
import NetmonPlugins.Plugins.Conversations.Runs
import NetmonPlugins.Plugins.Ssh.Impl
import NetmonPlugins.Plugins.Telnet.Impl
import NetmonPlugins.Plugins.Time.Impl
import NetmonPlugins.Plugins.ClockVerdict
import NetmonPlugins.Plugins.Log.Impl
import NetmonPlugins.Plugins.Log.Growth
import NetmonPlugins.Plugins.Deterioration
import NetmonPlugins.Plugins.Grafana.Impl
import NetmonPlugins.Plugins.Solr.Impl
import NetmonPlugins.Plugins.Connectivity.Impl
import NetmonPlugins.Plugins.ApiAnswers
import NetmonPlugins.Plugins.CommandLines
import NetmonPlugins.Plugins.Publishers
