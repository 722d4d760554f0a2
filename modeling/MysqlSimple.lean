import MysqlSimple.Io.Act
import MysqlSimple.Io.Bytes
import MysqlSimple.Consts
import MysqlSimple.Packets
import MysqlSimple.Packets.Handshake
import MysqlSimple.Value
import MysqlSimple.Value.ReadBinValue
import MysqlSimple.Value.BinRow
import MysqlSimple.Value.IntoStr
import MysqlSimple.Value.Temporal
import MysqlSimple.Value.Budget
import MysqlSimple.LocalInfile
import MysqlSimple.Conn.Basic
import MysqlSimple.Conn.Framer
import MysqlSimple.Conn.QueryResult
import MysqlSimple.Conn.Command
import MysqlSimple.Conn.Connect
import MysqlSimple.Value.TextRow
import MysqlSimple.Conn.Stream
import MysqlSimple.Conn.Writes
import MysqlSimple.Conn.Response
import MysqlSimple.Conn.Ledger
import MysqlSimple.Conn.Upload
import MysqlSimple.Conn.Execute
import MysqlSimple.Conn.Login
import MysqlSimple.Conn.Session
import MysqlSimple.Conn.LatestOk
