import EquityScreen.Decimal.Numeral
import EquityScreen.Stock

/-! The stock data that comes with the program, used where no data file is named. -/
namespace EquityScreen

/-- Tickers, and their metrics in table order. -/
def bundledRows : List (String × String) :=
  [("AAPL", "10255.9 13.3 27.5 0.26 3.22 8.3 -15.4 2.02 17.4"),
    ("MSFT", "13462.5 8.8 -0.5 1.3 4.96 -3.8 -2.1 2.38 76.6"),
    ("GOOGL", "17651.4 26.8 43.8 0.19 5.15 4.5 -8.5 0.85 35.1"),
    ("AMZN", "24630.9 14.9 24.1 1.93 2.23 17.4 -15.0 0.68 28.4"),
    ("NVDA", "20667.7 28.5 10.7 1.78 2.72 5.0 43.6 2.6 30.9"),
    ("META", "17573.2 33.9 38.8 2.2 1.73 39.0 -10.6 1.75 64.2"),
    ("TSLA", "5237.9 31.9 -3.0 2.02 4.59 18.7 50.0 1.44 60.2"),
    ("BRK.B", "18155.6 36.9 17.8 2.53 5.67 13.7 33.1 0.68 60.6"),
    ("JPM", "19696.2 59.6 36.1 0.89 2.31 23.4 -18.2 1.89 25.9"),
    ("V", "4219.2 8.2 33.4 0.43 1.49 9.5 49.7 0.74 44.2"),
    ("JNJ", "16843.6 53.6 36.0 2.6 1.67 10.8 8.7 3.15 77.3"),
    ("WMT", "5206.9 14.7 6.6 0.74 2.91 19.5 1.0 0.51 42.2"),
    ("PG", "11582.2 36.1 42.7 2.09 3.09 20.9 34.1 0.66 73.5"),
    ("MA", "23575.1 53.1 34.9 1.21 2.39 -4.8 30.7 0.69 19.4"),
    ("XOM", "6895.9 13.9 12.0 0.21 0.0 -2.4 -11.9 1.59 16.7"),
    ("UNH", "26330.5 38.8 2.4 0.79 2.08 8.2 -10.2 3.05 79.6"),
    ("HD", "14406.9 31.6 -0.7 0.35 2.06 3.2 46.3 0.98 16.5"),
    ("CVX", "28568.8 34.1 2.3 1.65 0.16 16.4 58.3 3.09 60.3"),
    ("KO", "8424.6 25.2 3.4 2.33 3.2 29.0 6.4 1.17 67.7"),
    ("PEP", "29559.8 51.9 35.3 2.46 4.44 1.3 21.4 1.57 16.9"),
    ("ABBV", "1615.8 20.4 8.0 2.09 5.74 12.4 55.0 3.46 77.1"),
    ("MRK", "11447.4 17.1 6.3 0.63 1.23 21.2 52.0 3.02 46.2"),
    ("COST", "19867.0 49.0 -0.8 2.0 5.46 29.1 40.0 1.93 26.6"),
    ("AVGO", "23842.8 23.3 35.0 2.92 2.38 10.1 55.7 2.67 26.1"),
    ("ADBE", "4509.5 13.3 40.2 2.43 0.88 31.3 58.4 2.47 37.8"),
    ("CSCO", "16820.9 12.2 -4.3 2.91 3.9 16.3 54.7 1.8 71.7"),
    ("CRM", "24923.7 16.6 7.6 0.91 1.44 19.3 0.7 1.76 23.5"),
    ("ORCL", "27372.5 24.5 17.9 1.77 5.43 11.0 53.4 2.0 49.6"),
    ("INTC", "16086.4 6.0 17.0 0.59 0.02 30.0 -6.2 1.92 62.1"),
    ("NFLX", "17049.1 22.9 20.9 1.69 4.71 -4.7 24.8 1.25 33.0"),
    ("DIS", "23350.0 32.9 23.1 2.29 5.47 12.2 29.0 2.02 48.3"),
    ("NKE", "21027.7 29.9 21.7 1.46 5.65 25.0 50.1 3.33 31.9"),
    ("MCD", "17137.8 56.9 37.0 0.45 0.73 12.1 -14.2 1.22 19.8"),
    ("T", "20348.6 48.1 39.9 0.51 4.3 23.0 -8.6 3.15 77.9"),
    ("VZ", "7212.0 57.4 14.9 1.49 5.94 31.6 -7.1 1.79 48.5"),
    ("IBM", "10702.2 15.8 10.9 2.18 0.12 17.7 15.2 0.55 36.5"),
    ("QCOM", "19018.7 33.2 -1.8 2.96 4.73 38.6 -11.6 1.3 17.6"),
    ("TXN", "23546.7 19.9 1.5 1.3 5.47 30.9 0.7 0.95 74.7"),
    ("AMD", "17461.4 43.5 -0.5 0.22 4.13 11.3 -14.2 3.32 56.2"),
    ("BA", "24207.6 9.6 37.8 0.25 5.18 12.7 7.1 2.16 75.2"),
    ("GS", "8621.5 12.1 21.3 0.75 0.66 -1.9 -16.0 1.11 35.3"),
    ("CAT", "9706.2 46.8 9.5 1.53 1.07 7.4 -18.5 1.25 16.0"),
    ("SBUX", "22205.9 35.3 4.5 1.45 5.61 -4.7 45.5 1.8 47.2"),
    ("PFE", "25170.7 26.6 20.3 2.08 5.89 7.1 46.6 2.62 56.3"),
    ("LLY", "12617.2 24.1 -2.3 0.43 0.42 27.0 0.4 0.99 20.5"),
    ("HON", "25365.1 52.9 28.5 0.88 1.45 4.7 16.8 0.97 44.0"),
    ("LOW", "8486.7 57.9 43.6 1.66 1.47 38.3 4.8 1.57 15.1"),
    ("UPS", "11943.5 31.1 20.1 0.64 3.03 -9.8 1.1 0.77 41.0"),
    ("MMM", "2016.7 6.2 10.2 0.74 3.51 16.5 40.0 2.47 61.5"),
    ("GE", "26469.4 26.4 11.3 2.95 0.9 26.2 31.5 0.63 69.3")]

/-- The stock in a row whose metrics are numerals separated by blanks. -/
def stockOfRow (row : String × String) : Stock :=
  (Metric.all.zip (row.2.toList.splitOnP (· == ' '))).foldl
    (fun s (m, numeral) => s.setMetric m (Binary64.ofNumeral? numeral)) (Stock.ofTicker row.1)

def bundledStocks : List Stock := bundledRows.map stockOfRow

end EquityScreen
